import BuildWatch.Proofs.JsonValues
import BuildWatch.Proofs.TranscriptRuns
import Mathlib.Data.List.TakeWhile

/-! Documents in a transcript. A document that the JSON reader accepts is complete at its last bracket and not
before, so it closes the build with its last line, whatever stands in its texts. -/

namespace BuildWatch.Json
open BuildWatch.Tool.Balance

end BuildWatch.Json

namespace BuildWatch.Tool.Transcript
open BuildWatch.Text Balance

def outputs (lines : List (List Char)) : List Input := lines.map fun line => .output (String.ofList line)

end BuildWatch.Tool.Transcript
