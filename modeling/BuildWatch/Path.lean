/-! Slash-separated paths. A path keeps its spelling, but what it means is its list of
components, and comparison, order and resolution see the components only. -/

namespace BuildWatch

structure Path where
  text : String
  deriving DecidableEq, Inhabited

/-- One step of a path. `here` is a dot that opens a relative path; all other dots vanish. -/
inductive Component where
  | root
  | here
  | up
  | name (text : String)
  deriving DecidableEq, Inhabited

namespace Component

def rank : Component → Nat
  | root => 0
  | here => 1
  | up => 2
  | name _ => 3

/-- Names are ordered by their code points, after the three kinds of special components. -/
def precedes (a b : Component) : Bool :=
  match a, b with
  | name x, name y => x < y
  | a, b => a.rank < b.rank

end Component

namespace Path
open Component

def isAbsolute (path : Path) : Bool := path.text.toList.head? == some '/'

/-- The pieces between slashes. -/
def segments : List Char → List (List Char)
  | [] => [[]]
  | c :: rest =>
    match segments rest with
    | [] => [[c]]
    | piece :: later => if c = '/' then [] :: piece :: later else (c :: piece) :: later

def componentOf (segment : List Char) : Option Component :=
  if segment.isEmpty || segment == ['.'] then none
  else if segment == ['.', '.'] then some up
  else some (name (String.ofList segment))

def components (path : Path) : List Component :=
  let pieces := segments path.text.toList
  let opening :=
    match pieces with
    | [] :: _ :: _ => [root]
    | ['.'] :: _ => [here]
    | _ => []
  opening ++ pieces.filterMap componentOf

def equivalent (a b : Path) : Bool := a.components == b.components

def precedes : List Component → List Component → Bool
  | [], [] => false
  | [], _ :: _ => true
  | _ :: _, [] => false
  | a :: as, b :: bs => if a == b then precedes as bs else a.precedes b

/-- Strict order of the component lists. -/
def before (a b : Path) : Bool := precedes a.components b.components

/-- `inner` seen from `base`: an absolute `inner` stands for itself. -/
def join (base inner : Path) : Path :=
  if inner.isAbsolute then inner
  else if base.text.isEmpty || base.text.toList.getLast? == some '/' then ⟨base.text ++ inner.text⟩
  else ⟨base.text ++ "/" ++ inner.text⟩

/-- The spelling of a component list: the root is a slash, and names follow one another with
single slashes between them. -/
def ofComponents (components : List Component) : Path :=
  components.foldl extend ⟨""⟩
where
  extend (path : Path) : Component → Path
    | root => ⟨"/"⟩
    | here => path.join ⟨"."⟩
    | up => path.join ⟨".."⟩
    | name text => path.join ⟨text⟩

/-- One component put on a stack of components, top first. An up step cancels a name, is lost
directly under the root, and stays where nothing can be cancelled. -/
def climb (stack : List Component) : Component → List Component
  | up =>
    match stack with
    | name _ :: below => below
    | root :: _ => stack
    | _ => up :: stack
  | here => stack
  | step => step :: stack

/-- Dots and cancelled up steps removed, without looking at any file. -/
def normalize (path : Path) : Path :=
  ofComponents (path.components.foldl climb []).reverse

/-- Where the body of a path begins: behind the root slash or the opening dot. -/
def bodyStart : List Char → Nat
  | '/' :: _ => 1
  | ['.'] => 1
  | '.' :: '/' :: _ => 1
  | _ => 0

/-- A reversed body without the slashes and single dots at its end. -/
def settle : List Char → List Char
  | '/' :: below => settle below
  | ['.'] => []
  | '.' :: '/' :: below => settle ('/' :: below)
  | body => body
  termination_by body => body.length

/-- The path without its last component; the root and the empty path have no parent. -/
def parent? (path : Path) : Option Path :=
  let text := path.text.toList
  let start := bodyStart text
  let opening := text.take start
  match settle (text.drop start).reverse with
  | [] =>
    match opening with
    | ['.'] => some ⟨""⟩
    | _ => none
  | body =>
    let below := settle (body.dropWhile (· != '/'))
    some ⟨String.ofList (opening ++ below.reverse)⟩

/-- The path itself and all its parents, innermost first. -/
def ancestors (path : Path) : List Path :=
  go (path.text.length + 1) path
where
  go : Nat → Path → List Path
    | 0, _ => []
    | fuel + 1, path =>
      match path.parent? with
      | none => [path]
      | some parent => path :: go fuel parent

/-- The path as seen from the directory `cwd`, with up steps kept. -/
def absolute (cwd path : Path) : Path :=
  let steps := path.components.filter (fun step => step != root && step != here)
  let base := if path.isAbsolute then ⟨"/"⟩ else cwd
  steps.foldl ofComponents.extend base

end Path

end BuildWatch
