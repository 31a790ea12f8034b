import BuildWatch.Path
import BuildWatch.Json.Basic

/-! Findings of a build: a file, a span in it, a message and a severity. Lines and characters count
from zero. -/

namespace BuildWatch

inductive Severity where
  | error
  | warning
  deriving DecidableEq, Inhabited

def Severity.label : Severity → String
  | error => "error"
  | warning => "warning"

/-- The largest line or character there is. -/
def lastPosition : UInt32 := 4294967295

structure Position where
  line : UInt32
  character : UInt32
  deriving DecidableEq, Inhabited

structure Span where
  start : Position
  stop : Position
  deriving DecidableEq, Inhabited

/-- One column wide, except where no column is left. -/
def Span.point (line character : UInt32) : Span :=
  ⟨⟨line, character⟩, ⟨line, if character = lastPosition then character else character + 1⟩⟩

structure Diagnostic where
  file : Path
  span : Span
  message : String
  severity : Severity
  deriving DecidableEq, Inhabited

def diagnosticSource : String := "webpack"

def Position.toJson (position : Position) : Json :=
  .object [("line", .ofNat position.line.toNat), ("character", .ofNat position.character.toNat)]

def Span.toJson (span : Span) : Json :=
  .object [("start", span.start.toJson), ("end", span.stop.toJson)]

def Diagnostic.toJson (diagnostic : Diagnostic) : Json :=
  .object [("uri", .string diagnostic.file.text), ("range", diagnostic.span.toJson),
    ("message", .string diagnostic.message), ("severity", .string diagnostic.severity.label),
    ("source", .string diagnosticSource)]

end BuildWatch
