import BuildWatch.Diagnostic
import BuildWatch.Text.Lines

/-! Raw problem text as build tools print it. Two dialects are known: a loader names file and position
behind the last word of a bracketed headline, and everybody else begins with the file. -/

namespace BuildWatch.Dialect
open BuildWatch.Text

/-- What a dialect reads off a problem: the file, line and column as printed, and the text that
is left for the message. -/
structure Location where
  file : List Char
  line : List Char
  column : List Char
  message : List Char
  deriving DecidableEq, Inhabited

/-- A run of digits before `stop`, and the text behind it. -/
def digitsBefore (stop : Char) (text : List Char) : Option (List Char × List Char) :=
  match text.takeWhile isDigit, text.dropWhile isDigit with
  | [], _ => none
  | digits, c :: rest => if c = stop then some (digits, rest) else none
  | _, [] => none

def isTabOrBlank (c : Char) : Bool := c = ' ' || c = '\t'

/-- The text behind the end of the present line, when only blanks and tabs are left on it. -/
def restOfLine (text : List Char) : Option (List Char) :=
  match text.dropWhile isTabOrBlank with
  | [] => some []
  | '\n' :: rest => some rest
  | '\r' :: '\n' :: rest => some rest
  | _ => none

/-- A position in parentheses that ends its line. -/
def loaderPosition (text : List Char) : Option (List Char × List Char × List Char) :=
  match text with
  | '(' :: rest => do
    let (line, rest) ← digitsBefore ',' rest
    let (column, rest) ← digitsBefore ')' rest
    let message ← restOfLine rest
    return (line, column, message)
  | _ => none

/-- The shortest file name, continued from `read`, that a position follows on the same line. -/
def loaderFile (read : List Char) : List Char → Option Location
  | [] => none
  | c :: rest =>
    match loaderPosition (c :: rest) with
    | some (line, column, message) => some ⟨read.reverse, line, column, message⟩
    | none => if c = '\n' then none else loaderFile (c :: read) rest

/-- The word that announces the file, between spaces. Line feeds count as spaces here. -/
def announced (text : List Char) : Option (List Char) :=
  match text with
  | before :: 'i' :: 'n' :: after :: rest =>
    if isSpace before && isSpace after then some (rest.dropWhile isSpace) else none
  | _ => none

def loaderTarget (text : List Char) : Option Location :=
  match announced text with
  | some (first :: rest) => loaderFile [first] rest
  | _ => none

/-- Looks for the announced file from left to right, up to the end of the headline. -/
def loaderHeadline : List Char → Option Location
  | [] => none
  | c :: rest =>
    match loaderTarget (c :: rest) with
    | some location => some location
    | none => if c = '\n' then none else loaderHeadline rest

def isTagCharacter (c : Char) : Bool := c != ']' && c != '\n'

/-- A headline opens with a tag in brackets that is not empty. -/
def loaderLine (text : List Char) : Option Location :=
  match text with
  | '[' :: rest =>
    match rest.takeWhile isTagCharacter, rest.dropWhile isTagCharacter with
    | _ :: _, ']' :: headline => loaderHeadline headline
    | _, _ => none
  | _ => none

/-- The first line that is a headline. -/
def loader (text : List Char) : Option Location :=
  match loaderLine text with
  | some location => some location
  | none =>
    match _found : (cutLine text).2 with
    | none => none
    | some rest => loader rest
termination_by text.length
decreasing_by exact cutLine_shorter _found

/-- The position that directly follows the file name behind one space. -/
def plainPosition (text : List Char) : Option (List Char × List Char) :=
  match text with
  | space :: rest =>
    if isSpace space then
      match digitsBefore ':' rest with
      | some (line, rest) =>
        match rest.takeWhile isDigit with
        | [] => none
        | column => some (line, column)
      | none => none
    else none
  | [] => none

def plain (text : List Char) : Option Location :=
  match text.takeWhile (fun c => !isSpace c) with
  | [] => none
  | file =>
    let (line, column) := (plainPosition (text.dropWhile fun c => !isSpace c)).getD (['1'], ['1'])
    some ⟨file, line, column, (cutLine text).2.getD []⟩

/-- A printed number. What is not plain digits, or does not fit, counts as the largest position. -/
def number (digits : List Char) : UInt32 :=
  let value : Nat := digits.foldl (fun value c => value * 10 + (c.toNat - '0'.toNat)) 0
  if digits.all isAsciiDigit && value ≤ lastPosition.toNat then UInt32.ofNat value else lastPosition

/-- A position that was counted from one, counted from zero. A zero stays what it is. -/
def fromZero (position : UInt32) : UInt32 := if position = 0 then 0 else position - 1

/-- Printed files that are not absolute lie under the root of the build. -/
def resolve (file root : Path) : Path :=
  if file.isAbsolute then file else (root.join file).normalize

/-- Printed positions count from one. -/
def Location.diagnostic (location : Location) (severity : Severity) (root : Path) : Diagnostic where
  file := resolve ⟨String.ofList location.file⟩ root
  span := .point (fromZero (number location.line)) (fromZero (number location.column))
  message := String.ofList location.message
  severity := severity

def locate (text : List Char) : Option Location := (loader text).or (plain text)

/-- The diagnostic of one problem text, if it opens with a file in any dialect. -/
def diagnose (severity : Severity) (problem : String) (root : Path) : Option Diagnostic :=
  (locate problem.toList).map fun location => location.diagnostic severity root

end BuildWatch.Dialect
