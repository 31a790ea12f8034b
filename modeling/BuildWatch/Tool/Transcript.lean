import BuildWatch.Tool.Problem
import BuildWatch.Json.Reader

/-! What a build tool prints, turned into reports. Progress comes on the error stream. Each finished
build prints a JSON document on the output stream, which may take many lines; a document is complete
when its brackets balance. -/

namespace BuildWatch.Tool
open BuildWatch.Text

/-- Counts brackets outside quoted text. -/
structure Balance where
  depth : Int := 0
  opened : Bool := false
  quoted : Bool := false
  escaped : Bool := false
  deriving DecidableEq, Inhabited

namespace Balance

def scan (balance : Balance) (c : Char) : Balance :=
  if balance.quoted then
    if balance.escaped then { balance with escaped := false }
    else if c = '\\' then { balance with escaped := true }
    else if c = '"' then { balance with quoted := false }
    else balance
  else if c = '"' then { balance with quoted := true }
  else if c = '\x7b' || c = '[' then { balance with depth := balance.depth + 1, opened := true }
  else if c = '\x7d' || c = ']' then { balance with depth := balance.depth - 1 }
  else balance

def isComplete (balance : Balance) : Bool := balance.opened && balance.depth ≤ 0

end Balance

/-- A document whose end is still to come, with a line feed behind each of its lines. -/
structure Document where
  text : List Char := []
  balance : Balance := {}
  deriving DecidableEq, Inhabited

namespace Document

def append (document : Document) (line : List Char) : Document :=
  ⟨document.text ++ line ++ ['\n'], line.foldl Balance.scan document.balance⟩

def isComplete (document : Document) : Bool := document.balance.isComplete

/-- A line that looks like the beginning of a document. -/
def opens (line : List Char) : Bool := (trimStart line).head? == some '\x7b'

/-- Printed documents are indented, but for the brackets that close them. -/
def continues : List Char → Bool
  | [] => true
  | c :: _ => isSpace c || c = '\x7d' || c = ']'

end Document

structure Transcript where
  /-- Progress has been seen since the last finished build. -/
  building : Bool := false
  pending : Option Document := none
  deriving DecidableEq, Inhabited

namespace Transcript

/-- The reports that close a build. -/
def closingReports (text : List Char) : List Report :=
  let result :=
    match Json.parse (String.ofList text) with
    | .ok document => Report.finished (outcomeOf document)
    | .error reason => .failure (.object [("message", .string ("Unreadable stats output: " ++ reason))])
  [.progress 100 true, result]

/-- Takes a line into a document, and closes the build when the document is complete. -/
def gather (transcript : Transcript) (document : Document) (line : List Char) : Transcript × List Report :=
  let document := document.append line
  if document.isComplete then (⟨false, none⟩, closingReports document.text)
  else ({ transcript with pending := some document }, [])

/-- A line outside any document. -/
def plainLine (transcript : Transcript) (line : String) : Transcript × List Report :=
  if Document.opens line.toList then transcript.gather {} line.toList
  else (transcript, [.line line])

/-- A line of the output stream. A document that the line cannot continue was none after all,
and its lines are reported as they are. -/
def outputLine (transcript : Transcript) (line : String) : Transcript × List Report :=
  match transcript.pending with
  | none => transcript.plainLine line
  | some document =>
    if Document.continues line.toList then transcript.gather document line.toList
    else
      let given := (splitLines document.text).map fun line => Report.line (String.ofList line)
      let (transcript, reports) := { transcript with pending := none }.plainLine line
      (transcript, given ++ reports)

def progressMark : List Char := "[webpack.Progress]".toList

def dropMark (mark text : List Char) : Option (List Char) :=
  match mark, text with
  | [], rest => some rest
  | _ :: _, [] => none
  | expected :: mark, c :: rest => if c = expected then dropMark mark rest else none

/-- One to three digits before a percent sign, with space in front of them. -/
def percentDigits (text : List Char) : Option (List Char) :=
  match text.takeWhile isSpace, text.dropWhile isSpace with
  | [], _ => none
  | _ :: _, text =>
    let digits := text.takeWhile isDigit
    if digits.isEmpty || 3 < digits.length then none
    else if (text.dropWhile isDigit).head? == some '%' then some digits
    else none

/-- The first progress mark in a line that a percentage follows. -/
def progressDigits : List Char → Option (List Char)
  | [] => none
  | c :: rest =>
    match (dropMark progressMark (c :: rest)).bind percentDigits with
    | some digits => some digits
    | none => progressDigits rest

/-- A percentage, capped; what is not written in plain digits counts as all. -/
def percentage (digits : List Char) : UInt8 :=
  if digits.all isAsciiDigit then
    UInt8.ofNat (min (digits.foldl (fun value c => value * 10 + (c.toNat - '0'.toNat)) 0) 100)
  else 100

/-- A line of the error stream. The first progress of a build is preceded by its start. -/
def errorLine (transcript : Transcript) (line : String) : Transcript × List Report :=
  match progressDigits line.toList with
  | none => (transcript, [.errorLine line])
  | some digits =>
    let tick := Report.progress (percentage digits) false
    ({ transcript with building := true }, if transcript.building then [tick] else [.progress 0 false, tick])

end Transcript

end BuildWatch.Tool
