import BuildWatch.Child
import BuildWatch.Frame.Decode
import BuildWatch.Log
import BuildWatch.Text.Stream
import BuildWatch.Tool.Command
import BuildWatch.Tool.Transcript

/-! The worker of a watch keeps one watch session of the build tool open and reports what the tool prints.
Processes of the tool are numbered as they are started, and output of any but the present one is dropped. -/

namespace BuildWatch

/-- An open session. Its process is gone when the tool has ended by itself. -/
structure ToolSession where
  command : Tool.Command
  process : Option UInt64
  deriving DecidableEq, Inhabited

inductive WorkerEffect where
  | report (report : Report)
  | note (record : LogRecord)
  | spawn (process : UInt64) (command : Tool.Command)
  /-- Ends the input of a process and waits for its exit, with force after the grace period. -/
  | close (process : UInt64) (graceMillis : Nat)
  deriving Inhabited

structure ToolSurroundings where
  isFile : Path → Bool
  /-- The failure to spawn a command, if it fails. -/
  spawnFailure : Tool.Command → Option String

structure Worker where
  tool : String
  session : Option ToolSession := none
  transcript : Tool.Transcript := {}
  nextProcess : UInt64 := 0
  deriving DecidableEq, Inhabited

namespace Worker

/-- How long the tool may take to close its session. -/
def closeGrace : Nat := 500

def process? (worker : Worker) : Option UInt64 := worker.session.bind (·.process)

def closing (process : Option UInt64) (graceMillis : Nat) : List WorkerEffect :=
  process.toList.map fun process => .close process graceMillis

def close (worker : Worker) : Worker × List WorkerEffect :=
  let effects :=
    match worker.session with
    | none => []
    | some session => closing session.process closeGrace ++ [.note (.of .debug "watch session closed")]
  ({ worker with session := none, transcript := {} }, effects)

def spawnFault (command : Tool.Command) (cause : String) : WorkerEffect :=
  .note (.of .error s!"Failed to spawn {command.program.text}: {cause}")

/-- A number is used up, and reading starts afresh, even if the process cannot be spawned. -/
def spawn (surroundings : ToolSurroundings) (command : Tool.Command) (worker : Worker) :
    Worker × Option UInt64 × WorkerEffect :=
  let renewed := { worker with nextProcess := worker.nextProcess + 1, transcript := {} }
  match surroundings.spawnFailure command with
  | some cause => (renewed, none, spawnFault command cause)
  | none => (renewed, some worker.nextProcess, .spawn worker.nextProcess command)

/-- Opens a session. Only a process that could be spawned makes one. -/
def openSession (surroundings : ToolSurroundings) (workingDirectory configFile : Path) (worker : Worker) :
    Worker × List WorkerEffect :=
  match Tool.Command.find surroundings.isFile worker.tool workingDirectory configFile with
  | .error reason => (worker, [.note (.of .error reason.message)])
  | .ok command =>
    let starting : LogRecord :=
      .of .info s!"Starting {command.program.text} --watch in {workingDirectory.text}"
    let (worker, process, effect) := worker.spawn surroundings command
    (match process with
      | some _ => { worker with session := some ⟨command, process⟩ }
      | none => worker,
      [.note starting, effect])

/-- Ends the process of the session, if there still is one. -/
def endProcess (worker : Worker) : Worker × List WorkerEffect :=
  match worker.session with
  | none => (worker, [])
  | some session => ({ worker with session := some { session with process := none } }, closing session.process 0)

/-- Runs the command of the session again. -/
def respawn (surroundings : ToolSurroundings) (worker : Worker) : Worker × List WorkerEffect :=
  match worker.session with
  | none => (worker, [])
  | some session =>
    let (worker, process, effect) := worker.spawn surroundings session.command
    ({ worker with session := some { session with process := process } }, [effect])

def invalidate (surroundings : ToolSurroundings) (worker : Worker) : Worker × List WorkerEffect :=
  match worker.session with
  | none => (worker, [.note (.of .debug "invalidate without a watch session")])
  | some _ =>
    let (worker, ending) := worker.endProcess
    let (worker, beginning) := worker.respawn surroundings
    (worker, ending ++ beginning)

/-- Does what a request asks for, and tells whether more requests are expected. -/
def obey (surroundings : ToolSurroundings) (request : Request) (worker : Worker) :
    Worker × List WorkerEffect × Bool :=
  match request with
  | .start workingDirectory configFile =>
    let (worker, ending) := worker.close
    let (worker, beginning) := worker.openSession surroundings workingDirectory configFile
    (worker, ending ++ beginning, true)
  | .invalidate =>
    let (worker, effects) := worker.invalidate surroundings
    (worker, effects, true)
  | .stop =>
    let (worker, effects) := worker.close
    (worker, effects, false)

def exitCode : Option Int → Json
  | some code => .number (.whole code)
  | none => .null

def exitReport (tool : String) (code : Option Int) : Report :=
  .failure (.object [("code", exitCode code), ("message", .string s!"{tool} exited unexpectedly")])

/-- What the present process puts out. -/
def onOutput (output : ProcessOutput) (worker : Worker) : Worker × List Report :=
  match output with
  | .outputLine line =>
    let (transcript, reports) := worker.transcript.outputLine line
    ({ worker with transcript }, reports)
  | .errorLine line =>
    let (transcript, reports) := worker.transcript.errorLine line
    ({ worker with transcript }, reports)
  | .exited code =>
    ({ worker with
        session := worker.session.map fun session => { session with process := none }
        transcript := {} },
      [exitReport worker.tool code])
  | .failed reason => (worker, [.errorLine reason])

def receive (process : UInt64) (output : ProcessOutput) (worker : Worker) : Worker × List WorkerEffect :=
  if worker.process? = some process then
    let (worker, reports) := worker.onOutput output
    (worker, reports.map .report)
  else (worker, [])

end Worker

/-- Why a worker serves no longer. -/
inductive ServiceEnd where
  | completed
  | malformed (fault : Malformed)
  | unreadable (reason : String)

/-- A worker that reads its requests line by line. -/
structure Service where
  worker : Worker
  ending : Option ServiceEnd := none

inductive ServiceEvent where
  | input (event : InputEvent)
  | tool (process : UInt64) (output : ProcessOutput)

namespace Service

def finish (service : Service) (ending : ServiceEnd) (effects : List WorkerEffect) : Service × List WorkerEffect :=
  let (worker, closing) := service.worker.close
  (⟨worker, some ending⟩, effects ++ closing)

/-- Blank lines mean nothing; a line that is no request ends the service. -/
def onLine (surroundings : ToolSurroundings) (line : String) (service : Service) : Service × List WorkerEffect :=
  if Text.isBlank line then (service, [])
  else
    match Request.decode line with
    | .error fault => service.finish (.malformed fault) [.note (.of .error fault.message)]
    | .ok request =>
      let (worker, effects, more) := service.worker.obey surroundings request
      (⟨worker, if more then none else some .completed⟩, effects)

/-- A service that has ended takes no notice of anything. -/
def step (surroundings : ToolSurroundings) (service : Service) (event : ServiceEvent) : Service × List WorkerEffect :=
  if service.ending.isSome then (service, [])
  else
    match event with
    | .input (.line line) => service.onLine surroundings line
    | .input .finished => service.finish .completed [.note (.of .debug "stdin closed")]
    | .input (.unreadable reason) => ({ service with ending := some (.unreadable reason) }, [])
    | .tool process output =>
      let (worker, effects) := service.worker.receive process output
      ({ service with worker }, effects)

end Service

end BuildWatch
