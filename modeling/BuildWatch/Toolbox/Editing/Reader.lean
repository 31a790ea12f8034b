import BuildWatch.Toolbox.Editing.Script

/-! Reading a script. What is wrong with it is told with the number of characters that have been read by then. -/

namespace BuildWatch.Toolbox.Editing

/-- A piece of a script, and how much of it has been read. -/
structure Source where
  text : Array Char
  position : Nat := 0

/-- How expressions are written, and whether this is the first piece of a script. -/
structure ReadingStyle where
  extended : Bool := false
  isFirst : Bool := true
  deriving Inhabited

abbrev Reading : Type → Type := StateT Source (Except (Fault × Nat))

namespace Reading

def fail {α : Type} (fault : Fault) : Reading α := fun source => .error (fault, source.position)

/-- The next character, which is `none` at the end. -/
def next : Reading (Option Char) := fun source =>
  match source.text[source.position]? with
  | some c => .ok (some c, { source with position := source.position + 1 })
  | none => .ok (none, source)

/-- Puts a character back that has just been read. -/
def back (c : Option Char) : Reading Unit :=
  modify fun source => if c.isSome then { source with position := source.position - 1 } else source

def isBlank (c : Char) : Bool := c = ' ' || c = '\t'

/-- The characters from here on that belong to a class. -/
def takeWhile (holds : Char → Bool) : Reading (List Char) := fun source =>
  let taken := (source.text.toList.drop source.position).takeWhile holds
  .ok (taken, { source with position := source.position + taken.length })

def nextBehindBlanks : Reading (Option Char) := do
  discard (takeWhile isBlank)
  next

def number : Reading (Option Nat) := do
  let digits ← takeWhile Char.isDigit
  return if digits.isEmpty then none else some (Ascii.number 10 digits)

/-- What follows a command has to be another one. -/
def endOfCommand : Reading Unit := do
  let c ← nextBehindBlanks
  if c == some '\x7d' || c == some '#' then back c
  else if !(c.isNone || c == some '\n' || c == some ';') then fail .extraCharacters

/-- Where in an expression a character stands: a delimiter in a set of characters does not end it. -/
inductive Surroundings where
  | outside
  | setStart
  | insideSet
  | insideName (mark : Char)
  deriving Inhabited

namespace Surroundings

/-- What comes behind a character, given the one that follows it. -/
def step (c : Char) (following : Option Char) : Surroundings → Surroundings
  | outside => if c = '[' then setStart else outside
  | setStart => if c = '^' then setStart else if c = '[' then named following else insideSet
  | insideSet => if c = ']' then outside else if c = '[' then named following else insideSet
  | insideName mark => if c = mark && following == some ']' then insideSet else insideName mark
where
  named (following : Option Char) : Surroundings :=
    match following with
    | some mark => if mark = ':' || mark = '.' || mark = '=' then insideName mark else insideSet
    | none => insideSet

def isOutside : Surroundings → Bool
  | outside => true
  | _ => false

end Surroundings

/-- The text up to a delimiter; `none` if there is none in this line. -/
def delimited (delimiter : Char) (isRegex : Bool) : Reading (Option (List Char)) := fun source =>
  let rec go (place : Surroundings) : List Char → Nat → List Char → Option (List Char) × Nat
    | [], position, _ => (none, position)
    | '\\' :: c :: rest, position, held =>
      if c = '\n' then go place rest (position + 2) ('\n' :: held)
      else if isRegex && c = 'n' then go place rest (position + 2) ('\n' :: held)
      else if c = delimiter && (isRegex || c != '&') then go place rest (position + 2) (c :: held)
      else
        let place := if place.isOutside then place else place.step c rest.head?
        go place rest (position + 2) (c :: '\\' :: held)
    | c :: rest, position, held =>
      if c = delimiter && place.isOutside then (some held.reverse, position + 1)
      else if c = '\n' then (none, position)
      else go (if isRegex then place.step c rest.head? else place) rest (position + 1) (c :: held)
  let (text, position) := go .outside (source.text.toList.drop source.position) source.position []
  .ok (text, { source with position })

/-- A character that an escape stands for, and the text behind it. -/
def escape? : List Char → Option (Char × List Char)
  | 'a' :: rest => some ('\x07', rest)
  | 'f' :: rest => some ('\x0c', rest)
  | 'r' :: rest => some ('\r', rest)
  | 't' :: rest => some ('\t', rest)
  | 'v' :: rest => some ('\x0b', rest)
  | 'x' :: rest => coded 16 2 Ascii.isHexDigit rest
  | 'o' :: rest => coded 8 3 Ascii.isOctal rest
  | 'd' :: rest => coded 10 3 Char.isDigit rest
  | _ => none
where
  coded (base most : Nat) (holds : Char → Bool) (rest : List Char) : Option (Char × List Char) :=
    let digits := (rest.take most).takeWhile holds
    if digits.isEmpty then none else some (Char.ofNat (Ascii.number base digits % 256), rest.drop digits.length)

/-- An expression with its escapes carried out, except those that are part of its notation. -/
def plainRegex (fuel : Nat) (text : List Char) : List Char :=
  match fuel, text with
  | 0, _ => []
  | _, [] => []
  | fuel + 1, '\\' :: rest =>
    match escape? rest with
    | some (c, rest) => (if "*.[]^$\\/+?()|".toList.contains c then ['\\', c] else [c]) ++ plainRegex fuel rest
    | none =>
      match rest with
      | c :: rest => '\\' :: c :: plainRegex fuel rest
      | [] => ['\\']
  | fuel + 1, c :: rest => c :: plainRegex fuel rest

def regexOf (style : ReadingStyle) (text : List Char) (ignoresCase byLine : Bool) : Reading Sought := do
  if text.isEmpty then return { ignoresCase, byLine }
  match Regex.ofText { extended := style.extended, strict := true } (String.ofList (plainRegex (text.length + 1) text)) with
  | .ok regex => return { regex := some regex, ignoresCase, byLine }
  | .error fault => fail (.badRegex fault)

/-- The letters behind an address. -/
def addressOptions (fuel : Nat) (ignoresCase byLine : Bool) : Reading (Bool × Bool) := do
  match fuel with
  | 0 => return (ignoresCase, byLine)
  | fuel + 1 =>
    let c ← nextBehindBlanks
    if c == some 'I' then addressOptions fuel true byLine
    else if c == some 'M' then addressOptions fuel ignoresCase true
    else
      back c
      return (ignoresCase, byLine)

/-- An address that begins with a character. -/
def address (style : ReadingStyle) (c : Option Char) : Reading (Option Address) := do
  match c with
  | none => return none
  | some c =>
    if c = '/' || c = '\\' then
      let delimiter ← if c = '\\' then next else pure (some c)
      match ← delimited (delimiter.getD '\n') true with
      | none => fail .unterminatedAddress
      | some text =>
        let (ignoresCase, byLine) ← addressOptions 100 false false
        return some (.fits (← regexOf style text ignoresCase byLine))
    else if c.isDigit then
      back (some c)
      let first := (← number).getD 0
      let sign ← nextBehindBlanks
      if sign == some '~' then
        discard (takeWhile isBlank)
        let step := (← number).getD 0
        return some (if step = 0 then .line first else .every first step)
      else
        back sign
        return some (.line first)
    else if c = '+' || c = '~' then
      discard (takeWhile isBlank)
      let count := (← number).getD 0
      return some (if c = '+' then .later count else .multiple count)
    else if c = '$' then return some .last
    else return none

def label : Reading String := do
  discard (takeWhile isBlank)
  return String.ofList (← takeWhile fun c => !(Ascii.isSpace c || c = ';'))

def fileName : Reading String := do
  discard (takeWhile isBlank)
  let name ← takeWhile (· != '\n')
  discard next
  if name.isEmpty then fail .missingName
  return String.ofList name

/-- The text of a command up to the end of its line, with escapes carried out. A line feed behind a backslash
belongs to the text. -/
def bodyText : Reading String := fun source =>
  let rec go (fuel : Nat) (position : Nat) (held : List Char) : List Char → List Char × Nat
    | [] => (held, position)
    | '\\' :: rest =>
      match fuel with
      | 0 => (held, position)
      | fuel + 1 =>
        match escape? rest with
        | some (c, behind) => go fuel (position + 1 + (rest.length - behind.length)) (c :: held) behind
        | none =>
          match rest with
          | 'n' :: behind => go fuel (position + 2) ('\n' :: held) behind
          | c :: behind => go fuel (position + 2) (c :: held) behind
          | [] => (held, position + 1)
    | c :: rest =>
      match fuel with
      | 0 => (held, position)
      | fuel + 1 => if c = '\n' then (held, position + 1) else go fuel (position + 1) (c :: held) rest
  let rest := source.text.toList.drop source.position
  let (held, position) := go (rest.length + 1) source.position [] rest
  .ok (String.ofList (held.reverse ++ ['\n']), { source with position })

/-- The text of a command that adds lines; `none` if it stands in the next piece of the script. -/
def addedText : Reading (Option String) := do
  match ← nextBehindBlanks with
  | none => fail .expectedBackslash
  | some '\\' =>
    match ← nextBehindBlanksKept with
    | none => return none
    | some '\n' => if (← get).position < (← get).text.size then return some (← bodyText) else return none
    | some _ =>
      back (some ' ')
      return some (← bodyText)
  | some c =>
    back (some c)
    return some (← bodyText)
where
  /-- Blanks behind a backslash count only if there is text behind them. -/
  nextBehindBlanksKept : Reading (Option Char) := fun source =>
    let blanks := (source.text.toList.drop source.position).takeWhile isBlank
    match source.text[source.position + blanks.length]? with
    | some '\n' => .ok (some '\n', { source with position := source.position + blanks.length + 1 })
    | _ => next source

/-- The parts of a replacement. -/
def replacementParts (fuel : Nat) (held : List Char) (text : List Char) : List Replacement :=
  let flush (parts : List Replacement) : List Replacement := if held.isEmpty then parts else .text held.reverse :: parts
  match fuel, text with
  | 0, _ => flush []
  | _, [] => flush []
  | fuel + 1, '&' :: rest => flush (.group 0 :: replacementParts fuel [] rest)
  | fuel + 1, '\\' :: rest =>
    match escape? rest with
    | some (c, rest) => replacementParts fuel (c :: held) rest
    | none =>
      match rest with
      | [] => replacementParts fuel ('\\' :: held) []
      | c :: rest =>
        let change (change : CaseChange) : List Replacement := flush (.change change :: replacementParts fuel [] rest)
        if c.isDigit then flush (.group (c.toNat - '0'.toNat) :: replacementParts fuel [] rest)
        else
          match c with
          | 'U' => change .upper
          | 'L' => change .lower
          | 'u' => change .upperOne
          | 'l' => change .lowerOne
          | 'E' => change .none
          | 'n' => replacementParts fuel ('\n' :: held) rest
          | c => replacementParts fuel (c :: held) rest
  | fuel + 1, c :: rest => replacementParts fuel (c :: held) rest

/-- The letters and numbers behind a substitution, and whether case and lines matter to it. -/
def substitutionOptions (fuel : Nat) (read : Substitution) (hasNumber : Bool) : Reading Substitution := do
  match fuel with
  | 0 => return read
  | fuel + 1 =>
    match ← nextBehindBlanks with
    | none => return read
    | some c =>
      if c = '\n' || c = ';' then return read
      else if c = '\x7d' || c = '#' then
        back (some c)
        return read
      else if c = 'i' || c = 'I' then
        substitutionOptions fuel { read with sought := { read.sought with ignoresCase := true } } hasNumber
      else if c = 'm' || c = 'M' then
        substitutionOptions fuel { read with sought := { read.sought with byLine := true } } hasNumber
      else if c = 'p' then
        if read.shows then fail .manyShows else substitutionOptions fuel { read with shows := true } hasNumber
      else if c = 'g' then
        if read.isGlobal then fail .manyGlobals else substitutionOptions fuel { read with isGlobal := true } hasNumber
      else if c = 'w' then return { read with output := some (← fileName) }
      else if c.isDigit then
        if hasNumber then fail .manyNumbers
        back (some c)
        let number := (← Reading.number).getD 0
        if number = 0 then fail .zeroNumber
        substitutionOptions fuel { read with number } true
      else fail .unknownOption

def substitution (style : ReadingStyle) : Reading Action := do
  let some delimiter ← next | fail .unterminatedSubstitution
  let some pattern ← delimited delimiter true | fail .unterminatedSubstitution
  let some replacement ← delimited delimiter false | fail .unterminatedSubstitution
  let parts := replacementParts (replacement.length + 1) [] replacement
  let read ← substitutionOptions 1000 { sought := {}, parts } false
  let sought ← regexOf style pattern read.sought.ignoresCase read.sought.byLine
  let groups := match sought.regex with
    | some regex => regex.groupCount
    | none => 9
  let wrong := parts.findSome? fun
    | .group number => if groups < number then some number else none
    | _ => none
  match wrong with
  | some number => fail (.badReference number)
  | none => return .substitute { read with sought }

/-- Characters with their escapes carried out. -/
def carriedOut : List Char → List Char
  | '\\' :: 'n' :: rest => '\n' :: carriedOut rest
  | '\\' :: 't' :: rest => '\t' :: carriedOut rest
  | '\\' :: '\\' :: rest => '\\' :: carriedOut rest
  | c :: rest => c :: carriedOut rest
  | [] => []

def exchange : Reading Action := do
  let some delimiter ← next | fail .unterminatedExchange
  let some source ← delimited delimiter false | fail .unterminatedExchange
  let some target ← delimited delimiter false | fail .unterminatedExchange
  let source := carriedOut source
  let target := carriedOut target
  if source.length != target.length then fail .unequalLengths
  endOfCommand
  return .exchange (source.zip target)

end Reading

/-- What has been read of a script. -/
structure Draft where
  commands : Array Command := #[]
  isSilent : Bool := false
  /-- The commands that open the blocks that are not closed yet. -/
  blocks : List Nat := []
  labels : List (String × Nat) := []
  /-- Commands that jump, with the labels that they jump to. -/
  jumps : List (Nat × String) := []
  /-- The text of the last command stands in the next piece. -/
  awaitsText : Bool := false
  deriving Inhabited

namespace Draft

def add (selector : Selector) (action : Action) (draft : Draft) : Draft :=
  { draft with commands := draft.commands.push { selector, action } }

def setAction (index : Nat) (change : Action → Action) (draft : Draft) : Draft :=
  { draft with commands := draft.commands.modify index fun command => { command with action := change command.action } }

open Reading

/-- A command that is one letter. -/
def simple? : Char → Option Action
  | '=' => some .showNumber
  | 'd' => some .delete
  | 'D' => some .deleteLine
  | 'F' => some .showSource
  | 'g' => some .recall
  | 'G' => some .recallMore
  | 'h' => some .keep
  | 'H' => some .keepMore
  | 'n' => some .next
  | 'N' => some .nextMore
  | 'p' => some .display
  | 'P' => some .displayLine
  | 'x' => some .swap
  | 'z' => some .clear
  | _ => none

def withText (text : String) : Char → Action
  | 'a' => .append text
  | 'i' => .insert text
  | _ => .change text

def withName (path : String) : Char → Action
  | 'r' => .readFile path
  | 'R' => .readLine path
  | 'w' => .writeFile path
  | _ => .writeLine path

def withCount (count : Option Nat) : Char → Action
  | 'q' => .quit (count.getD 0)
  | 'Q' => .quitSilently (count.getD 0)
  | _ => .list count

def jumping (target : Nat) : Char → Action
  | 'b' => .jump target
  | 't' => .jumpIfReplaced target
  | _ => .jumpUnlessReplaced target

def selector (style : ReadingStyle) (c : Option Char) : Reading (Selector × Option Char) := do
  let first ← address style c
  match first with
  | none => return ({}, c)
  | some (.later _) => fail .badFirstAddress
  | some (.multiple _) => fail .badFirstAddress
  | some first =>
    let c ← nextBehindBlanks
    let (second, c) ←
      if c == some ',' then do
        let some second ← address style (← nextBehindBlanks) | fail .unexpectedComma
        pure (some second, ← nextBehindBlanks)
      else pure (none, c)
    match first, second with
    | .line 0, some (.fits _) => return ({ first := some first, second }, c)
    | .line 0, _ => fail .lineZero
    | _, _ => return ({ first := some first, second }, c)

/-- Reads a command behind its addresses. -/
def command (style : ReadingStyle) (selector : Selector) (letter : Char) (draft : Draft) : Reading Draft := do
  match letter with
  | '#' =>
    if selector.first.isSome then fail .commentWithAddress
    let start := (← get).position
    let comment ← takeWhile (· != '\n')
    return { draft with isSilent := draft.isSilent || (style.isFirst && start = 1 && comment == ['n']) }
  | '\x7b' => return { draft.add selector (.block 0) with blocks := draft.commands.size :: draft.blocks }
  | '\x7d' =>
    match draft.blocks with
    | [] => fail .unexpectedClose
    | opening :: blocks =>
      if selector.first.isSome then fail .closeWithAddress
      endOfCommand
      return { draft.setAction opening fun _ => .block draft.commands.size with blocks }
  | ':' =>
    if selector.first.isSome then fail .markWithAddress
    let name ← label
    if name.isEmpty then fail .missingLabel
    return { draft.add {} .mark with labels := draft.labels ++ [(name, draft.commands.size)] }
  | 's' => return draft.add selector (← substitution style)
  | 'y' => return draft.add selector (← exchange)
  | letter =>
    if "aic".toList.contains letter then
      match ← addedText with
      | some text => return draft.add selector (withText text letter)
      | none => return { draft.add selector (withText "" letter) with awaitsText := true }
    else if "btT".toList.contains letter then
      let name ← labelOfJump
      endOfCommand
      let jumps := if name.isEmpty then draft.jumps else (draft.commands.size, name) :: draft.jumps
      return { draft.add selector (jumping 1000000000 letter) with jumps }
    else if "rRwW".toList.contains letter then return draft.add selector (withName (← fileName) letter)
    else if "qQl".toList.contains letter then
      if letter != 'l' && selector.second.isSome then fail .oneAddressOnly
      discard (takeWhile isBlank)
      let count ← number
      endOfCommand
      return draft.add selector (withCount count letter)
    else
      match simple? letter with
      | some action => do
        endOfCommand
        return draft.add selector action
      | none => fail (.unknownCommand letter)
where
  labelOfJump : Reading String := do
    discard (takeWhile isBlank)
    return String.ofList (← takeWhile fun c => !(Ascii.isSpace c || c = ';' || c = '\x7d'))

/-- Reads commands up to the end of a piece. -/
def readAll (style : ReadingStyle) (fuel : Nat) (draft : Draft) : Reading Draft := do
  match fuel with
  | 0 => return draft
  | fuel + 1 =>
    discard (takeWhile fun c => Ascii.isSpace c || c = ';')
    let c ← next
    if c.isNone then return draft
    let (selector, c) ← Draft.selector style c
    let (negated, c) ←
      if c == some '!' then do
        let c ← nextBehindBlanks
        if c == some '!' then fail .manyNegations
        pure (true, c)
      else pure (false, c)
    match c with
    | none => fail .missingCommand
    | some letter =>
      if letter = '\n' || letter = ';' then fail .missingCommand
      let draft ← draft.command style { selector with negated } letter
      readAll style fuel draft

/-- Reads a further piece of a script. -/
def readPiece (style : ReadingStyle) (text : String) (draft : Draft) : Except (Fault × Nat) Draft :=
  let source : Source := { text := text.toList.toArray }
  let fuel := text.length + 1
  let body : Reading Draft := do
    if draft.awaitsText then
      let text ← bodyText
      let fill (action : Action) : Action :=
        match action with
        | .append _ => .append text
        | .insert _ => .insert text
        | .change _ => .change text
        | other => other
      readAll style fuel { draft.setAction (draft.commands.size - 1) fill with awaitsText := false }
    else readAll style fuel draft
  (body.run source).map (·.1)

/-- The script with its jumps resolved, or the label that there is not. -/
def finish (draft : Draft) : Except String Script := do
  let draft ← draft.jumps.reverse.foldlM (fun (draft : Draft) (index, name) =>
    match draft.labels.find? (·.1 == name) with
    | none => .error ("can't find label for jump to " ++ Fault.cited name)
    | some (_, target) =>
      .ok (draft.setAction index fun
        | .jump _ => .jump target
        | .jumpIfReplaced _ => .jumpIfReplaced target
        | .jumpUnlessReplaced _ => .jumpUnlessReplaced target
        | other => other)) draft
  return { commands := draft.commands, isSilent := draft.isSilent }

end Draft

end BuildWatch.Toolbox.Editing
