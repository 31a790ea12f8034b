import BuildWatch.Child
import BuildWatch.Frame.Decode
import BuildWatch.Watch

/-! The link from a watch to its worker process: what the process puts out, as events of a worker. -/

namespace BuildWatch.Link

/-- How the worker is called. -/
def arguments (buildTool : String) : List String := ["worker", "--tool", buildTool]

/-- Blank lines are no frames. What comes on the error stream has not found its way into the
conversation and is taken as an error line. -/
def event? : ProcessOutput → Option WorkerEvent
  | .outputLine line =>
    if Text.isBlank line then none
    else
      match Report.decode line with
      | .ok report => some (.reported report)
      | .error malformed => some (.violated malformed.message)
  | .errorLine line => some (.reported (.errorLine line))
  | .exited code => some (.exited code)
  | .failed reason => some (.failed reason)

def launchFailure (program : Path) (cause : String) : String := s!"Failed to spawn worker '{program.text}': {cause}"

def writeFailure (cause : String) : WorkerEvent := .failed ("Failed to write to worker: " ++ cause)

def closed : String := "worker link closed"

end BuildWatch.Link
