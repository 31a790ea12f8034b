import BuildWatch.Diagnostic.Dialect
import BuildWatch.Failure
import BuildWatch.FileTree
import BuildWatch.Json.Printer
import BuildWatch.Text.Utf8

/-! A check of one captured problem: the diagnostic that the text of a file stands for. -/

namespace BuildWatch.Check

/-- What a check leaves behind. -/
structure Result where
  output : String := ""
  failure : Option Failure := none
  exitCode : Nat := 0
  deriving Inhabited

def unrecognized : String := "No diagnostic recognized."

/-- The diagnostic of a text, written out. -/
def ofText (severity : Severity) (text : String) (root : Path) : Result :=
  match Dialect.diagnose severity text root with
  | some diagnostic => { output := diagnostic.toJson.pretty ++ "\n" }
  | none => { output := unrecognized ++ "\n", exitCode := 1 }

def unreadable (file : Path) (cause : String) : Result where
  failure := some { message := s!"Failed to read {file.text}", cause := some cause }
  exitCode := Failure.exitCode

def notText : String := "stream did not contain valid UTF-8"

/-- A problem is looked for in text. -/
structure Question where
  file : Path
  root : Path
  severity : Severity
  deriving DecidableEq, Inhabited

/-- The answer that the content of the file gives. -/
def Question.answer (question : Question) (current : Location) (content : List UInt8) : Result :=
  match Utf8.decode content with
  | .error _ => unreadable question.file notText
  | .ok text => ofText question.severity text (Path.absolute ⟨"/" ++ "/".intercalate current⟩ question.root)

def run (tree : FileTree) (current : Location) (question : Question) : Result :=
  match tree.read current question.file with
  | .error fault => unreadable question.file fault.message
  | .ok content => question.answer current content

end BuildWatch.Check
