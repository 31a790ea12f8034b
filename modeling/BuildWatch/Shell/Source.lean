import BuildWatch.Shell.Command

/-! The text of a script while it is read: its lines are counted, and words that stand for other text are
replaced on the way. -/

namespace BuildWatch.Shell

/-- Why a script cannot be read, and in which line. -/
structure SyntaxFault where
  line : Nat
  reason : String
  deriving DecidableEq, Inhabited

inductive Token where
  | endOfText
  | newline
  | sign (text : String)
  | keyword (text : String)
  | word (parts : Word)
  | redirect (descriptor : Nat) (kind : Redirect) (dropTabs : Bool)
  deriving Inhabited

namespace Token

/-- How messages name a token. -/
def name : Token → String
  | endOfText => "end of file"
  | newline => "newline"
  | sign text => s!"\"{text}\""
  | keyword text => s!"\"{text}\""
  | word _ => "word"
  | redirect .. => "redirection"

def keywords : List String :=
  ["!", "case", "do", "done", "elif", "else", "esac", "fi", "for", "if", "in", "then", "until", "while", "\x7b", "\x7d"]

/-- Tokens that can end a list of commands. -/
def endsList : Token → Bool
  | endOfText => true
  | sign text => text = ")" || text = ";;"
  | keyword text => ["do", "done", "elif", "else", "esac", "fi", "then", "\x7d"].contains text
  | _ => false

end Token

/-- Names with the text that they stand for at the beginning of a command. -/
abbrev Aliases : Type := List (String × String)

structure Source where
  text : List Char
  line : Nat := 1
  /-- Lines that belong to commands of the present line, and have been taken from behind it. -/
  taken : Nat := 0
  aliases : Aliases := []
  /-- Aliases whose text is being read, and how much text stands behind each. -/
  unfolded : List (String × Nat) := []
  /-- A token that has been looked at, and not been taken. -/
  pushed : Option Token := none
  deriving Inhabited

/-- Readers take what they read from the source. -/
abbrev Reader : Type → Type := StateT Source (Except SyntaxFault)

namespace Source

def isBlank (c : Char) : Bool := c = ' ' || c = '\t'

/-- Ends a word outside quotes. -/
def isMeta (c : Char) : Bool := isBlank c || "\n;&|<>()".toList.contains c

def isNameStart (c : Char) : Bool := c.isAlpha || c = '_'

def isNameChar (c : Char) : Bool := c.isAlphanum || c = '_'

def isName (text : List Char) : Bool :=
  match text with
  | [] => false
  | c :: rest => isNameStart c && rest.all isNameChar

/-- The name and the value of a word that assigns. -/
def assignmentOf : Word → Option (String × Word)
  | .text chars false :: rest =>
    let name := chars.takeWhile isNameChar
    match chars.drop name.length with
    | '=' :: value =>
      if isName name then some (String.ofList name, if value.isEmpty then rest else .text value false :: rest) else none
    | _ => none
  | _ => none

/-- Commands whose names no function can have. -/
def specialNames : List String :=
  [".", ":", "break", "continue", "eval", "exec", "exit", "export", "local", "readonly", "return", "set", "shift", "times",
    "trap", "unset"]

/-- Lines that are joined here, and the text behind them. -/
def joinedLines : List Char → Nat × List Char
  | '\\' :: '\n' :: rest =>
    let (count, rest) := joinedLines rest
    (count + 1, rest)
  | rest => (0, rest)

/-- Skips blanks, joined lines and a comment; answers how many lines it has joined. -/
def skipBlanks : List Char → Nat × List Char
  | '\\' :: '\n' :: rest =>
    let (count, rest) := skipBlanks rest
    (count + 1, rest)
  | '#' :: rest => (0, rest.dropWhile (· != '\n'))
  | c :: rest => if isBlank c then skipBlanks rest else (0, c :: rest)
  | [] => (0, [])

/-- The source with other text ahead, so many lines further on. -/
def moved (source : Source) (lines : Nat) (text : List Char) : Source := { source with text, line := source.line + lines }

/-- The source behind a line feed. -/
def newLine (source : Source) (text : List Char) : Source :=
  { source with text, line := source.line + 1 + source.taken, taken := 0 }

/-- The source behind a character. -/
def behind (source : Source) (c : Char) (text : List Char) : Source :=
  if c = '\n' then source.newLine text else { source with text }

/-- The text that a name stands for. Within its own text it stands for itself. -/
def alias? (source : Source) (name : String) : Option String :=
  match source.aliases.find? (·.1 == name) with
  | none => none
  | some (_, value) =>
    if source.unfolded.any fun (other, behind) => other = name && behind < source.text.length then none
    else some value

def unfold (source : Source) (name value : String) : Source :=
  { source with
    text := value.toList ++ source.text
    unfolded := (name, source.text.length) :: source.unfolded.filter fun (_, behind) => behind < source.text.length }

/-- The rest of the present line, and the text behind it. A joined line goes on. -/
def restOfLine : List Char → List Char × Option (List Char)
  | [] => ([], none)
  | '\\' :: c :: rest =>
    let (line, behind) := restOfLine rest
    ('\\' :: c :: line, behind)
  | c :: rest =>
    if c = '\n' then ([], some rest)
    else
      let (line, behind) := restOfLine rest
      (c :: line, behind)

/-- The lines of a text that follows its command, up to the line that closes it; what stands behind that, and how
many lines have gone. -/
def hereLines (fuel : Nat) (dropTabs : Bool) (delimiter : List Char) (text : List Char) :
    List Char × List Char × Nat :=
  match fuel, text with
  | 0, _ => ([], text, 0)
  | _, [] => ([], [], 0)
  | fuel + 1, text =>
    let line := text.takeWhile (· != '\n')
    let line := if dropTabs then line.dropWhile (· = '\t') else line
    match text.dropWhile (· != '\n') with
    | [] => (if line == delimiter then [] else line, [], 0)
    | _ :: rest =>
      if line == delimiter then ([], rest, 1)
      else
        let (body, rest, count) := hereLines fuel dropTabs delimiter rest
        (line ++ '\n' :: body, rest, count + 1)

/-- Takes the text that follows a command out from behind the present line. -/
def takeHereText (source : Source) (dropTabs : Bool) (delimiter : List Char) : List Char × Source :=
  match restOfLine source.text with
  | (_, none) => ([], source)
  | (line, some rest) =>
    let (body, rest, count) := hereLines (rest.length + 1) dropTabs delimiter rest
    (body, { source with text := line ++ '\n' :: rest, taken := source.taken + count })

end Source

end BuildWatch.Shell
