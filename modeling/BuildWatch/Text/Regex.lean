import BuildWatch.Text.Ascii

/-! Regular expressions, and where they fit in a text. Of the places where an expression can end, the furthest one
counts; a part further to the front takes as much as it can. -/

namespace BuildWatch

/-- A part of a set of characters. -/
inductive CharRange where
  | range (first last : Char)
  | named (name : String)
  deriving DecidableEq, Inhabited

def CharRange.holds (c : Char) : CharRange → Bool
  | range first last => first ≤ c && c ≤ last
  | named name => (Ascii.inClass? name c).getD false

structure CharSet where
  negated : Bool := false
  ranges : List CharRange
  deriving DecidableEq, Inhabited

namespace CharSet

def one (c : Char) : CharSet := { ranges := [.range c c] }

def any : CharSet := { negated := true, ranges := [] }

def wordRanges : List CharRange := [.named "alnum", .range '_' '_']

/-- Where case does not matter, each character counts as its other case too. -/
def holds (ignoresCase : Bool) (set : CharSet) (c : Char) : Bool :=
  let isIn (c : Char) : Bool := set.ranges.any (·.holds c)
  (isIn c || (ignoresCase && (isIn c.toLower || isIn c.toUpper))) != set.negated

end CharSet

/-- Places that have no width. -/
inductive Anchor where
  | lineStart
  | lineEnd
  | textStart
  | textEnd
  | wordStart
  | wordEnd
  | wordEdge
  | noWordEdge
  deriving DecidableEq, Inhabited

inductive Regex where
  | empty
  | one (set : CharSet)
  | anchor (kind : Anchor)
  | chain (first second : Regex)
  | either (first second : Regex)
  | repeated (body : Regex) (least : Nat) (most : Option Nat)
  | group (number : Nat) (body : Regex)
  /-- What a group has taken. -/
  | again (number : Nat)
  deriving Inhabited

namespace Regex

/-- What does not change while a text is looked through. -/
structure Setting where
  text : Array Char
  ignoresCase : Bool := false
  /-- Lines begin and end inside the text too. -/
  byLine : Bool := false

/-- How far an expression has got, and what its groups have taken, each from a position up to another one. -/
structure Reach where
  position : Nat
  groups : List (Nat × Nat × Nat) := []
  deriving DecidableEq, Inhabited

def isWord (c : Char) : Bool := c.isAlphanum || c = '_'

namespace Setting

def isWordAt (setting : Setting) (position : Nat) : Bool := (setting.text[position]?).any isWord

def isWordBefore (setting : Setting) (position : Nat) : Bool := 0 < position && setting.isWordAt (position - 1)

def holds (setting : Setting) (position : Nat) : Anchor → Bool
  | .textStart => position = 0
  | .textEnd => position = setting.text.size
  | .lineStart => position = 0 || (setting.byLine && setting.text[position - 1]? == some '\n')
  | .lineEnd => position = setting.text.size || (setting.byLine && setting.text[position]? == some '\n')
  | .wordStart => !setting.isWordBefore position && setting.isWordAt position
  | .wordEnd => setting.isWordBefore position && !setting.isWordAt position
  | .wordEdge => setting.isWordBefore position != setting.isWordAt position
  | .noWordEdge => setting.isWordBefore position == setting.isWordAt position

def sameChar (setting : Setting) (a b : Char) : Bool := a = b || (setting.ignoresCase && a.toLower = b.toLower)

end Setting

/-- The first of those that have got equally far. -/
def distinct (size : Nat) (reaches : List Reach) : List Reach :=
  go (Array.replicate (size + 1) false) reaches
where
  go (seen : Array Bool) : List Reach → List Reach
    | [] => []
    | reach :: rest =>
      if (seen[reach.position]?).getD true then go seen rest
      else reach :: go (seen.setIfInBounds reach.position true) rest

def furthestFirst (reaches : List Reach) : List Reach :=
  match reaches with
  | [] => []
  | [reach] => [reach]
  | reaches => reaches.mergeSort fun a b => b.position ≤ a.position

/-- Rounds of a repetition: all that can be reached by so many of them. -/
def rounds (size : Nat) (step : Reach → List Reach) (most : Option Nat) (fuel count : Nat) (least : Nat)
    (seen : Array Bool) (front found : List Reach) : List Reach :=
  match fuel with
  | 0 => found
  | fuel + 1 =>
    let fresh := if count < least then front else front.filter fun reach => !((seen[reach.position]?).getD true)
    let seen := if count < least then seen else fresh.foldl (fun seen reach => seen.setIfInBounds reach.position true) seen
    let found := if count < least then found else fresh ++ found
    if fresh.isEmpty || most.any (· ≤ count) then found
    else rounds size step most fuel (count + 1) least seen (distinct size (furthestFirst (fresh.flatMap step))) found

/-- How far a run of characters of a set goes at most. -/
def runEnd (setting : Setting) (set : CharSet) (fuel position : Nat) : Nat :=
  match fuel with
  | 0 => position
  | fuel + 1 =>
    match setting.text[position]? with
    | some c => if set.holds setting.ignoresCase c then runEnd setting set fuel (position + 1) else position
    | none => position

/-- All the places up to which an expression fits, each once. -/
def ends (setting : Setting) : Regex → Reach → List Reach
  | empty, reach => [reach]
  | one set, reach =>
    match setting.text[reach.position]? with
    | some c => if set.holds setting.ignoresCase c then [{ reach with position := reach.position + 1 }] else []
    | none => []
  | anchor kind, reach => if setting.holds reach.position kind then [reach] else []
  | chain first second, reach =>
    match ends setting first reach with
    | [] => []
    | [reach] => ends setting second reach
    | reaches => distinct setting.text.size ((furthestFirst reaches).flatMap (ends setting second))
  | either first second, reach => distinct setting.text.size (ends setting first reach ++ ends setting second reach)
  | repeated (one set) least most, reach =>
    let room := min (setting.text.size - reach.position) (most.getD (setting.text.size))
    let last := runEnd setting set room reach.position
    ((List.range (last + 1 - reach.position - least)).map fun back => { reach with position := last - back })
  | repeated body least most, reach =>
    rounds setting.text.size (ends setting body) most (setting.text.size + least + 2) 0 least
      (Array.replicate (setting.text.size + 1) false) [reach] []
  | group number body, reach =>
    (ends setting body reach).map fun after =>
      { after with groups := (number, reach.position, after.position) :: after.groups.filter (·.1 != number) }
  | again number, reach =>
    match reach.groups.find? (·.1 == number) with
    | none => []
    | some (_, first, last) =>
      let count := last - first
      let fits := (List.range count).all fun offset =>
        match setting.text[first + offset]?, setting.text[reach.position + offset]? with
        | some a, some b => setting.sameChar a b
        | _, _ => false
      if fits then [{ reach with position := reach.position + count }] else []

/-- Where an expression has been found. -/
structure Match where
  first : Nat
  last : Nat
  groups : List (Nat × Nat × Nat)
  deriving Inhabited

namespace Match

/-- What a group has taken, if it has taken part. The whole match has the number zero. -/
def span? (found : Match) (number : Nat) : Option (Nat × Nat) :=
  if number = 0 then some (found.first, found.last) else (found.groups.find? (·.1 == number)).map (·.2)

end Match

/-- The longest match at a position. -/
def matchAt? (setting : Setting) (regex : Regex) (position : Nat) : Option Match :=
  match furthestFirst (ends setting regex { position }) with
  | [] => none
  | reach :: _ => some { first := position, last := reach.position, groups := reach.groups }

def findFrom (setting : Setting) (regex : Regex) (fuel position : Nat) : Option Match :=
  match fuel with
  | 0 => none
  | fuel + 1 =>
    match matchAt? setting regex position with
    | some found => some found
    | none => findFrom setting regex fuel (position + 1)

/-- The first match from a position on. -/
def find? (setting : Setting) (regex : Regex) (position : Nat) : Option Match :=
  findFrom setting regex (setting.text.size + 1 - position) position

/-- How often an expression is found at most, and where it is found, one match behind the other. -/
def findAll (setting : Setting) (regex : Regex) (fuel position : Nat) : List Match :=
  match fuel with
  | 0 => []
  | fuel + 1 =>
    match find? setting regex position with
    | none => []
    | some found =>
      found :: findAll setting regex fuel (if found.first = found.last then found.last + 1 else found.last)

/-- The number of groups. -/
def groupCount : Regex → Nat
  | chain first second => groupCount first + groupCount second
  | either first second => groupCount first + groupCount second
  | repeated body _ _ => groupCount body
  | group _ body => groupCount body + 1
  | _ => 0

end Regex

end BuildWatch
