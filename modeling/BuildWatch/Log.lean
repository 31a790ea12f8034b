import BuildWatch.Frame
import BuildWatch.Text.Utf8

/-! Log records. A record is written with its level in front, and a filter decides how much is written.
A worker has no other way out than its frames, so its records travel as reports. -/

namespace BuildWatch

inductive LogLevel where
  | error
  | warn
  | info
  | debug
  | trace
  deriving DecidableEq, Inhabited

namespace LogLevel

def severity : LogLevel → Nat
  | error => 1
  | warn => 2
  | info => 3
  | debug => 4
  | trace => 5

/-- The name of a level, flush right in five columns. -/
def label : LogLevel → String
  | error => "ERROR"
  | warn => " WARN"
  | info => " INFO"
  | debug => "DEBUG"
  | trace => "TRACE"

end LogLevel

/-- A message with named values behind it. -/
structure LogRecord where
  level : LogLevel
  text : String
  fields : List (String × String) := []
  deriving DecidableEq, Inhabited

namespace LogRecord

def of (level : LogLevel) (text : String) (fields : List (String × String) := []) : LogRecord := { level, text, fields }

def hexDigits (value : Nat) (places : Nat) : List Char :=
  let digits := Nat.toDigits 16 value
  List.replicate (places - digits.length) '0' ++ digits

/-- Controls that could steer a terminal are written by number. -/
def harmless (c : Char) : List Char :=
  if ['\x07', '\x08', '\x0c', '\x1b', '\x7f'].contains c then ['\\', 'x'] ++ hexDigits c.toNat 2
  else if 0x80 ≤ c.toNat && c.toNat ≤ 0x9f then ['\\', 'u', '\x7b'] ++ hexDigits c.toNat 1 ++ ['\x7d']
  else [c]

/-- Only the message is made harmless; values are written as they are. -/
def line (record : LogRecord) : String :=
  let values := record.fields.map fun (name, value) => s!" {name}={value}"
  record.level.label ++ " " ++ String.ofList (record.text.toList.flatMap harmless) ++ String.join values

end LogRecord

/-- The least severe level that is written, if any is. -/
structure LogFilter where
  limit : Option LogLevel
  deriving DecidableEq, Inhabited

namespace LogFilter

def standard : LogFilter := ⟨some .info⟩

/-- The filter of a given name; what is no name of a filter leaves the standard one. -/
def named (name : String) : LogFilter :=
  if name = "off" then ⟨none⟩
  else if name = "error" then ⟨some .error⟩
  else if name = "warn" then ⟨some .warn⟩
  else if name = "debug" then ⟨some .debug⟩
  else if name = "trace" then ⟨some .trace⟩
  else standard

def passes (filter : LogFilter) (level : LogLevel) : Bool :=
  match filter.limit with
  | none => false
  | some limit => level.severity ≤ limit.severity

end LogFilter

namespace Report

/-- Warnings and errors go with the error lines. A record without a level is an ordinary line. -/
def isErrorRecord : Option LogLevel → Bool
  | some level => level.severity ≤ LogLevel.severity .warn
  | none => false

/-- The report of a record that was written piece by piece. Line ends at its end are dropped, and a
record with nothing else is not reported. -/
def ofRecord (level : Option LogLevel) (pieces : List (List UInt8)) : Option Report :=
  let text := Text.dropEndWhile (fun c => c = '\r' || c = '\n') (Utf8.decodeLossy pieces.flatten).toList
  if text.isEmpty then none
  else if isErrorRecord level then some (errorLine (String.ofList text))
  else some (line (String.ofList text))

end Report

/-- A span of time as messages give it, in the largest unit that leaves a whole part. -/
def durationText (millis : Nat) : String :=
  if millis = 0 then "0ns"
  else if millis < 1000 then s!"{millis}ms"
  else if millis % 1000 = 0 then s!"{millis / 1000}s"
  else
    let places := (Nat.toDigits 10 (millis % 1000 + 1000)).drop 1
    s!"{millis / 1000}." ++ String.ofList (Text.dropEndWhile (· = '0') places) ++ "s"

end BuildWatch
