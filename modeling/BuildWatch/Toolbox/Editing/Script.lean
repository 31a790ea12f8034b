import BuildWatch.Text.Regex.Reader

/-! Scripts that say how the lines of a text are changed. -/

namespace BuildWatch.Toolbox.Editing

/-- An expression as it is used in a script. An empty one stands for the one that was used last. -/
structure Sought where
  regex : Option Regex := none
  ignoresCase : Bool := false
  byLine : Bool := false
  deriving Inhabited

inductive Address where
  | line (number : Nat)
  /-- Every so many lines from the first one on. -/
  | every (first step : Nat)
  | last
  | fits (sought : Sought)
  /-- So many lines later. -/
  | later (count : Nat)
  /-- The next line whose number is a multiple. -/
  | multiple (count : Nat)
  deriving Inhabited

/-- The lines that a command is for: all, those at an address, or those from one address to another. -/
structure Selector where
  first : Option Address := none
  second : Option Address := none
  negated : Bool := false
  deriving Inhabited

/-- How letters behind a mark are changed. -/
inductive CaseChange where
  | upper
  | lower
  | upperOne
  | lowerOne
  | none
  deriving DecidableEq, Inhabited

inductive Replacement where
  | text (text : List Char)
  | group (number : Nat)
  | change (change : CaseChange)
  deriving Inhabited

structure Substitution where
  sought : Sought
  parts : List Replacement
  isGlobal : Bool := false
  /-- The first match that is replaced. -/
  number : Nat := 1
  shows : Bool := false
  output : Option String := none
  deriving Inhabited

/-- The commands of a script, with the places that they jump to. -/
inductive Action where
  | block (behind : Nat)
  | mark
  | jump (target : Nat)
  | jumpIfReplaced (target : Nat)
  | jumpUnlessReplaced (target : Nat)
  | append (text : String)
  | insert (text : String)
  | change (text : String)
  | delete
  | deleteLine
  | showNumber
  | showSource
  | recall
  | recallMore
  | keep
  | keepMore
  | swap
  | clear
  | next
  | nextMore
  | display
  | displayLine
  | list (width : Option Nat)
  | quit (code : Nat)
  | quitSilently (code : Nat)
  | readFile (path : String)
  | readLine (path : String)
  | writeFile (path : String)
  | writeLine (path : String)
  | exchange (pairs : List (Char × Char))
  | substitute (substitution : Substitution)
  deriving Inhabited

structure Command where
  selector : Selector := {}
  action : Action
  deriving Inhabited

structure Script where
  commands : Array Command := #[]
  /-- Lines are only shown when a command says so. -/
  isSilent : Bool := false
  deriving Inhabited

/-- Why a text is no script. -/
inductive Fault where
  | manyNegations
  | unexpectedComma
  | badFirstAddress
  | unmatchedOpen
  | unexpectedClose
  | extraCharacters
  | expectedBackslash
  | closeWithAddress
  | markWithAddress
  | commentWithAddress
  | missingCommand
  | oneAddressOnly
  | unterminatedAddress
  | unterminatedSubstitution
  | unterminatedExchange
  | unknownOption
  | manyShows
  | manyGlobals
  | manyNumbers
  | zeroNumber
  | unequalLengths
  | lineZero
  | unknownCommand (letter : Char)
  | missingName
  | missingLabel
  | badReference (number : Nat)
  | badRegex (fault : RegexFault)
  deriving Inhabited

namespace Fault

/-- A part of a script, as it is named in a complaint. -/
def cited (text : String) : String := String.singleton '\x60' ++ text ++ "'"

def message : Fault → String
  | manyNegations => "multiple " ++ cited "!" ++ "s"
  | unexpectedComma => "unexpected " ++ cited ","
  | badFirstAddress => "invalid usage of +N or ~N as first address"
  | unmatchedOpen => "unmatched " ++ cited "\x7b"
  | unexpectedClose => "unexpected " ++ cited "\x7d"
  | extraCharacters => "extra characters after command"
  | expectedBackslash => "expected \\ after " ++ cited "a" ++ ", " ++ cited "c" ++ " or " ++ cited "i"
  | closeWithAddress => "\x7d doesn't want any addresses"
  | markWithAddress => ": doesn't want any addresses"
  | commentWithAddress => "comments don't accept any addresses"
  | missingCommand => "missing command"
  | oneAddressOnly => "command only uses one address"
  | unterminatedAddress => "unterminated address regex"
  | unterminatedSubstitution => "unterminated " ++ cited "s" ++ " command"
  | unterminatedExchange => "unterminated " ++ cited "y" ++ " command"
  | unknownOption => "unknown option to " ++ cited "s"
  | manyShows => "multiple " ++ cited "p" ++ " options to " ++ cited "s" ++ " command"
  | manyGlobals => "multiple " ++ cited "g" ++ " options to " ++ cited "s" ++ " command"
  | manyNumbers => "multiple number options to " ++ cited "s" ++ " command"
  | zeroNumber => "number option to " ++ cited "s" ++ " command may not be zero"
  | unequalLengths => "strings for " ++ cited "y" ++ " command are different lengths"
  | lineZero => "invalid usage of line address 0"
  | unknownCommand letter => "unknown command: " ++ cited (String.singleton letter)
  | missingName => "missing filename in r/R/w/W commands"
  | missingLabel => "\":\" lacks a label"
  | badReference number => s!"invalid reference \\{number} on " ++ cited "s" ++ " command's RHS"
  | badRegex fault => fault.message

end Fault

end BuildWatch.Toolbox.Editing
