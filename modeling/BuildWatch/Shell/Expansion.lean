import BuildWatch.Machine.Accounts
import BuildWatch.Shell.Arithmetic
import BuildWatch.Shell.Builtin
import BuildWatch.Shell.Field

/-! What becomes of words before a command is carried out: home directories, parameters, the output of commands,
arithmetic, and the names of files that fit a pattern. A fault in a word gives its command up. -/

namespace BuildWatch.Shell

open Machine

/-- Carries a command out, and goes on with what it has written. -/
abbrev Substitution : Type := Command → State → (List Char → State → Program) → Program

namespace Expansion

def home? (state : State) (user : List Char) : Option String :=
  if user.isEmpty then state.value? "HOME" else Account.home? (String.ofList user)

/-- A piece of text with a home directory for a tilde at its front. A user's name has to end in the piece, or with it. -/
def withHome (state : State) (endsHere : Bool) (piece : List Char) : List Part :=
  match piece with
  | '~' :: rest =>
    let user := rest.takeWhile (· != '/')
    let behind := rest.drop user.length
    if behind.isEmpty && !endsHere then [.text piece false]
    else
      match home? state user with
      | some home => [.text home.toList true, .text behind false]
      | none => [.text piece false]
  | piece => [.text piece false]

/-- The pieces of a text between its colons. -/
def betweenColons (text : List Char) : List (List Char) :=
  match text with
  | [] => [[]]
  | c :: rest =>
    match betweenColons rest with
    | [] => [[c]]
    | piece :: later => if c = ':' then [] :: piece :: later else (c :: piece) :: later

/-- Pieces with home directories, put together with colons again. -/
def homePieces (state : State) (isLast : Bool) : List (List Char) → List Part
  | [] => []
  | [piece] => withHome state isLast piece
  | piece :: rest => withHome state true piece ++ .text [':'] false :: homePieces state isLast rest

/-- A word that begins with a tilde begins with a home directory. -/
def atHome (state : State) : Word → Word
  | .text chars false :: rest => withHome state rest.isEmpty chars ++ rest
  | word => word

/-- In what is assigned, tildes count behind colons too. -/
def allAtHome (state : State) (isFirst : Bool) : Word → Word
  | [] => []
  | .text chars false :: rest =>
    let pieces := betweenColons chars
    let here :=
      match pieces, isFirst with
      | piece :: later, false => if later.isEmpty then [.text piece false] else .text (piece ++ [':']) false :: homePieces state rest.isEmpty later
      | pieces, _ => homePieces state rest.isEmpty pieces
    here ++ allAtHome state false rest
  | part :: rest => part :: allAtHome state false rest

def parameterGlyphs (state : State) (name : String) (quoted : Bool) : List Glyph :=
  let arguments := state.arguments.map fun argument => Glyph.ofText quoted argument.toList
  if name = "@" || (name = "*" && !quoted) then
    if arguments.isEmpty then (if quoted then [.void] else []) else [Glyph.divide].intercalate arguments
  else Glyph.ofText quoted ((state.parameter? name).getD "").toList

def textGlyphs (chars : List Char) (quoted : Bool) : List Glyph :=
  if quoted then .mark :: chars.map .quoted else chars.map .plain

/-- The command cannot go on. -/
def abort (text : String) (state : State) (next : List Glyph → State → Program) : Program :=
  Builtin.refuse text state (next [])

def arithmeticReason (text : List Char) : ArithmeticFault → String
  | .unreadable reason => s!"arithmetic expression: {reason}: \"{String.ofList text}\""
  | .notNumber value => s!"Illegal number: {value}"

/-- Values of variables as numbers. -/
def numbers (state : State) (name : String) : Except String Int :=
  match Arithmetic.valueOf? (state.valueOf name) with
  | some value => .ok value
  | none => .error (state.valueOf name)

/-- The value of an arithmetic expression, and the variables that it sets. -/
def calculate (text : List Char) (quoted : Bool) (state : State) (next : List Glyph → State → Program) : Program :=
  match Arithmetic.evaluate (numbers state) text with
  | .error fault => abort (arithmeticReason text fault) state next
  | .ok (value, set) =>
    let values := set.reverse.map fun (name, value) => (name, toString value)
    Builtin.assignEach values state fun state => next (Glyph.ofText quoted (toString value).toList) state

def joined (state : State) (glyphs : List Glyph) : Field := Glyph.unsplit state.joiner glyphs

mutual

/-- The glyphs of a word, up to a fault in it. -/
def parts (substitute : Substitution) (fuel : Nat) (word : Word) (state : State) (next : List Glyph → State → Program) :
    Program :=
  match fuel with
  | 0 => state.leave
  | fuel + 1 =>
    match word with
    | [] => next [] state
    | .text chars quoted :: rest =>
      parts substitute fuel rest state fun behind state => next (textGlyphs chars quoted ++ behind) state
    | first :: rest =>
      part substitute fuel first state fun glyphs state =>
        if state.jump.isSome then next [] state
        else parts substitute fuel rest state fun behind state => next (glyphs ++ behind) state

def part (substitute : Substitution) (fuel : Nat) (piece : Part) (state : State) (next : List Glyph → State → Program) :
    Program :=
  match fuel with
  | 0 => state.leave
  | fuel + 1 =>
    match piece with
    | .text chars quoted => next (textGlyphs chars quoted) state
    | .parameter name modifier quoted => parameter substitute fuel name modifier quoted state next
    | .substitution command quoted =>
      substitute command state fun text state => next (Glyph.ofText quoted text) state
    | .arithmetic expression quoted =>
      parts substitute fuel expression state fun glyphs state =>
        if state.jump.isSome then next [] state
        else calculate ((joined state glyphs).map (·.1)) quoted state next

def parameter (substitute : Substitution) (fuel : Nat) (name : String) (modifier : Modifier) (quoted : Bool)
    (state : State) (next : List Glyph → State → Program) : Program :=
  match fuel with
  | 0 => state.leave
  | fuel + 1 =>
    let value := state.parameter? name
    let missing (orEmpty : Bool) : Bool :=
      match value with
      | none => true
      | some text => orEmpty && text.isEmpty
    let own (state : State) : Program := next (parameterGlyphs state name quoted) state
    let instead (word : Word) : Program :=
      parts substitute fuel (if quoted then word else atHome state word) state fun glyphs state =>
        next (if quoted then .mark :: glyphs else glyphs.map Glyph.soften) state
    let refusesUnset : Bool := value.isNone && state.isOn 'u'
    match modifier with
    | .bad => abort "Bad substitution" state next
    | .plain => if refusesUnset then abort s!"{name}: parameter not set" state next else own state
    | .length =>
      if refusesUnset then abort s!"{name}: parameter not set" state next
      else next (Glyph.ofText quoted (toString (value.getD "").length).toList) state
    | .useDefault orEmpty word => if missing orEmpty then instead word else own state
    | .useAlternative orEmpty word =>
      if missing orEmpty then next (if quoted then [.mark] else []) state else instead word
    | .assignDefault orEmpty word =>
      if missing orEmpty then
        parts substitute fuel (atHome state word) state fun glyphs state =>
          if state.jump.isSome then next [] state
          else Builtin.assignEach [(name, (joined state glyphs).text)] state own
      else own state
    | .demand orEmpty word =>
      if missing orEmpty then
        if word.isEmpty then
          abort (name ++ if orEmpty then ": parameter not set or null" else ": parameter not set") state next
        else
          parts substitute fuel (atHome state word) state fun glyphs state =>
            if state.jump.isSome then next [] state else abort s!"{name}: {(joined state glyphs).text}" state next
      else own state
    | .trim atFront longest word =>
      if refusesUnset then abort s!"{name}: parameter not set" state next
      else
        parts substitute fuel (atHome state word) state fun glyphs state =>
          let pattern := Pattern.ofChars (joined state glyphs)
          next (Glyph.ofText quoted (pattern.trim atFront longest (value.getD "").toList)) state

end

/-- A word as one text. -/
def text (substitute : Substitution) (fuel : Nat) (word : Word) (state : State) (next : String → State → Program) : Program :=
  parts substitute fuel word state fun glyphs state => next (joined state glyphs).text state

/-- Names in a directory that a piece of a pattern fits. Hidden ones have to be asked for. -/
def fitting (piece : Field) (names : List String) : List String :=
  let asksHidden := piece.head?.map (·.1) == some '.'
  let pattern := Pattern.ofChars piece
  ((if asksHidden then [".", ".."] else []) ++ names).filter fun name =>
    pattern.fits name.toList && (asksHidden || !name.startsWith ".")

/-- Paths that continue each of the given ones by a name that a piece of a pattern fits. -/
def continued (piece : Field) (found : List String) : List String → (List String → Program) → Program
  | [], next => next found
  | base :: rest, next =>
    if piece.hasPattern then
      .call (.entries ⟨if base.isEmpty then "." else base⟩) fun
        | .names names => continued piece (found ++ (fitting piece names).map (base ++ ·)) rest next
        | _ => continued piece found rest next
    else
      let path := base ++ piece.text
      if piece.isEmpty then continued piece (found ++ [path]) rest next
      else
        .call (.inspect ⟨path⟩) fun
          | .kind _ => continued piece (found ++ [path]) rest next
          | _ => continued piece found rest next

/-- The existing paths that a field fits as a pattern. -/
def matchingPaths : List Field → List String → (List String → Program) → Program
  | [], found, next => next found
  | [piece], found, next => continued piece [] found next
  | piece :: rest, found, next => continued piece [] found fun found => matchingPaths rest (found.map (· ++ "/")) next

/-- The texts of fields. A pattern that fits no path stands for itself. -/
def paths (state : State) : List Field → (List String → Program) → Program
  | [], next => next []
  | field :: rest, next =>
    if field.hasPattern && !state.isOn 'f' then
      matchingPaths field.pieces [""] fun found =>
        let texts := if found.isEmpty then [field.text] else found.mergeSort fun a b => !(b < a)
        paths state rest fun later => next (texts ++ later)
    else paths state rest fun later => next (field.text :: later)

/-- The fields that a word stands for. -/
def fields (substitute : Substitution) (fuel : Nat) (word : Word) (state : State) (next : List String → State → Program) :
    Program :=
  parts substitute fuel (atHome state word) state fun glyphs state =>
    if state.jump.isSome then next [] state
    else paths state (fieldsOf state.separators glyphs) fun texts => next texts state

def allFields (substitute : Substitution) (fuel : Nat) : List Word → State → (List String → State → Program) → Program
  | [], state, next => next [] state
  | word :: rest, state, next =>
    fields substitute fuel word state fun texts state =>
      if state.jump.isSome then next [] state
      else allFields substitute fuel rest state fun later state => next (texts ++ later) state

/-- Whether arguments of a command that are written like assignments are treated like them. -/
def declares : List String → Bool
  | "command" :: rest => declares rest
  | "-p" :: rest => declares rest
  | "--" :: rest => declares rest
  | name :: _ => name = "export" || name = "readonly" || name = "local"
  | [] => false

/-- A command and its arguments. -/
def command (substitute : Substitution) (fuel : Nat) (held : List String) :
    List Word → State → (List String → State → Program) → Program
  | [], state, next => next held state
  | word :: rest, state, next =>
    let more (texts : List String) (state : State) : Program :=
      if state.jump.isSome then next [] state else command substitute fuel (held ++ texts) rest state next
    match if declares held then Source.assignmentOf word else none with
    | some (name, value) =>
      text substitute fuel (allAtHome state true value) state fun value state => more [name ++ "=" ++ value] state
    | none => fields substitute fuel word state more

end Expansion

end BuildWatch.Shell
