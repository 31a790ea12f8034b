/-! Keeping an eye on a child process. Two readers pass on the lines of its streams, and a monitor reports
its exit when the readers are through, or when it has waited for each of them long enough. A reader that was
not waited for goes on reading. If nobody can wait for the process, this is reported in the place of its exit. -/

namespace BuildWatch

/-- What is passed on about a child. A child that a signal ended has no exit code. -/
inductive ProcessOutput where
  | outputLine (line : String)
  | errorLine (line : String)
  | exited (code : Option Int)
  | failed (reason : String)
  deriving DecidableEq, Inhabited

inductive OutputStream where
  | output
  | error
  deriving DecidableEq, Inhabited

/-- How far the monitor has come. -/
inductive MonitorStage where
  | waiting
  | draining (stream : OutputStream)
  | reported
  deriving DecidableEq, Inhabited

/-- How the holder of a child stands to it. -/
inductive Hold where
  | held
  | shuttingDown
  | dropped
  deriving DecidableEq, Inhabited

structure Child where
  outputOpen : Bool := true
  errorOpen : Bool := true
  /-- The exit of the process, once it has ended. -/
  exit : Option (Option Int) := none
  /-- Why the monitor could not wait for the process, if it could not. -/
  waitFailure : Option String := none
  stage : MonitorStage := .waiting
  hold : Hold := .held
  killAsked : Bool := false
  killed : Bool := false
  deriving DecidableEq, Inhabited

inductive ChildEvent where
  | line (stream : OutputStream) (text : String)
  | unreadable (stream : OutputStream) (reason : String)
  | streamEnded (stream : OutputStream)
  | ended (code : Option Int)
  | unwaitable (reason : String)
  | shutDown
  | graceExpired
  | drop
  | drainExpired
  /-- The monitor does what it can do next. -/
  | monitor
  deriving DecidableEq, Inhabited

namespace Child

/-- How long the monitor waits for one reader. -/
def drainMillis : Nat := 500

def isOpen (child : Child) : OutputStream → Bool
  | .output => child.outputOpen
  | .error => child.errorOpen

def closeStream (child : Child) : OutputStream → Child
  | .output => { child with outputOpen := false }
  | .error => { child with errorOpen := false }

def lineOutput : OutputStream → String → ProcessOutput
  | .output, text => .outputLine text
  | .error, text => .errorLine text

def readFault (reason : String) : String := "Failed to read child output: " ++ reason

def waitFault (reason : String) : String := "Failed to wait for child: " ++ reason

/-- What the monitor says in the end. -/
def report (child : Child) : ProcessOutput :=
  match child.waitFailure with
  | none => .exited (child.exit.getD none)
  | some reason => .failed (waitFault reason)

/-- Goes on behind the draining of a stream: to the other stream, or to the report. -/
def afterDraining (child : Child) : OutputStream → Child × List ProcessOutput
  | .output => ({ child with stage := .draining .error }, [])
  | .error => ({ child with stage := .reported }, [child.report])

/-- A process that has ended by itself is not killed any more. -/
def monitorStep (child : Child) : Child × List ProcessOutput :=
  match child.stage with
  | .waiting =>
    match child.exit with
    | some _ => ({ child with stage := .draining .output }, [])
    | none =>
      if child.killAsked then
        ({ child with exit := some none, killed := true, stage := .draining .output }, [])
      else (child, [])
  | .draining stream => if child.isOpen stream then (child, []) else child.afterDraining stream
  | .reported => (child, [])

def step (child : Child) : ChildEvent → Child × List ProcessOutput
  | .line stream text => if child.isOpen stream then (child, [lineOutput stream text]) else (child, [])
  | .unreadable stream reason =>
    if child.isOpen stream then
      (child.closeStream stream, [.failed (readFault reason)])
    else (child, [])
  | .streamEnded stream => (child.closeStream stream, [])
  | .ended code => if child.exit.isNone then ({ child with exit := some code }, []) else (child, [])
  | .unwaitable reason =>
    if child.stage = .waiting then ({ child with waitFailure := some reason, stage := .draining .output }, [])
    else (child, [])
  | .shutDown => if child.hold = .held then ({ child with hold := .shuttingDown }, []) else (child, [])
  | .graceExpired =>
    if child.hold = .shuttingDown && child.stage != .reported then ({ child with killAsked := true }, [])
    else (child, [])
  | .drop => if child.hold = .held then ({ child with hold := .dropped, killAsked := true }, []) else (child, [])
  | .drainExpired =>
    match child.stage with
    | .draining stream => child.afterDraining stream
    | _ => (child, [])
  | .monitor => child.monitorStep

/-- A shutdown goes on until the monitor has made its report. -/
def shutDownReturned (child : Child) : Bool := child.hold = .shuttingDown && child.stage = .reported

end Child

end BuildWatch
