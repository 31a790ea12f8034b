import BuildWatch.Board
import BuildWatch.Diagnostic.Dialect
import BuildWatch.Log
import BuildWatch.Target

/-! A watch owns at most one worker and turns what it reports into diagnostics and a build status.
Every operation answers with the watch after it and its effects in order. What a watch cannot decide
by itself, such as whether a file is there or a worker can be launched, it finds in its surroundings. -/

namespace BuildWatch

inductive BuildStatus where
  | idle
  | running (percent : UInt8)
  | success
  | failure
  deriving DecidableEq, Inhabited

/-- Why a watch does not start. -/
inductive StartError where
  | noWorkingDirectory
  | noConfigFile
  | configFileMissing (file : Path)
  deriving DecidableEq, Inhabited

namespace StartError

def message : StartError → String
  | noWorkingDirectory => "No working directory (defaults to project root)"
  | noConfigFile => "No webpack configuration file defined"
  | configFileMissing file => s!"Defined webpack configuration file doesn't exist: {file.text}"

/-- Without a directory nothing can be done at all; everything else is only worth a warning. -/
def isBlocking : StartError → Bool
  | noWorkingDirectory => true
  | _ => false

end StartError

/-- What happened to a worker. A worker that a signal ended has no exit code. -/
inductive WorkerEvent where
  | reported (report : Report)
  | exited (code : Option Int)
  | failed (reason : String)
  | violated (detail : String)
  deriving Inhabited

/-- Workers are numbered in the order of their launches. -/
inductive Effect where
  | clearDiagnostics
  | publish (file : Path) (items : List Diagnostic)
  | log (line : String)
  | warn (text : String)
  | alert (text : String)
  | launch (worker : Nat) (generation : UInt64) (workingDirectory : Path)
  | send (worker : Nat) (request : Request)
  | sendFailed (worker : Nat) (request : Request)
  | shutDown (worker : Nat) (graceMillis : Nat)
  | activeChanged (active : Bool)
  | statusChanged (status : BuildStatus)
  | note (record : LogRecord)
  deriving Inhabited

structure Surroundings where
  pathExists : Path → Bool
  /-- The failure of a launch in a directory, if it fails. -/
  launchFailure : Path → Option String
  /-- The failure of a request to the present worker, if it fails. -/
  sendFailure : Request → Option String

/-- The worker of an active watch. Its generation tells its events from those of workers before it. -/
structure Run where
  worker : Nat
  generation : UInt64
  workingDirectory : Path
  deriving DecidableEq, Inhabited

structure Watch where
  target : Target := {}
  run : Option Run := none
  nextGeneration : UInt64 := 0
  launches : Nat := 0
  status : BuildStatus := .idle
  deriving DecidableEq, Inhabited

namespace Watch

/-- How long a worker that is asked to stop may take for it. -/
def stopGrace : Nat := 1000

def isActive (watch : Watch) : Bool := watch.run.isSome

def preconditions (watch : Watch) (pathExists : Path → Bool) : Except StartError (Path × Path) :=
  match watch.target.workingDirectory, watch.target.configFile with
  | none, _ => .error .noWorkingDirectory
  | some _, none => .error .noConfigFile
  | some directory, some file =>
    let config := directory.join file
    if pathExists config then .ok (directory, file) else .error (.configFileMissing config)

def refusal (reason : StartError) : Effect :=
  if reason.isBlocking then .alert reason.message else .warn reason.message

/-- A request on its way to a worker, or its loss. -/
def delivery (worker : Nat) (request : Request) : Option String → Effect
  | none => .send worker request
  | some _ => .sendFailed worker request

def lossNote (level : LogLevel) (what : String) : Option String → List Effect
  | none => []
  | some reason => [.note (.of level s!"{what}: {reason}")]

/-- Launches a worker and asks it to start. A generation is used up even if the launch fails. A request that
gets lost is left to the exit of the worker, which follows. -/
def start (surroundings : Surroundings) (watch : Watch) : Watch × List Effect :=
  if watch.isActive then (watch, [])
  else
    match watch.preconditions surroundings.pathExists with
    | .error reason => (watch, [refusal reason])
    | .ok (directory, file) =>
      let generation := watch.nextGeneration
      match surroundings.launchFailure directory with
      | some reason =>
        ({ watch with nextGeneration := generation + 1 },
          [.note (.of .error s!"worker launch failed: {reason}"), .alert s!"webpack error: '{reason}'"])
      | none =>
        let request := Request.start directory file
        let loss := surroundings.sendFailure request
        ({ watch with
            run := some ⟨watch.launches, generation, directory⟩
            nextGeneration := generation + 1
            launches := watch.launches + 1 },
          [.launch watch.launches generation directory, delivery watch.launches request loss] ++
            lossNote .warn "start message not delivered" loss ++
            [.note (.of .info "build worker started" [("dir", directory.text), ("generation", toString generation)]),
              .activeChanged true])

def stop (surroundings : Surroundings) (watch : Watch) : Watch × List Effect :=
  match watch.run with
  | none => (watch, [])
  | some run =>
    let loss := surroundings.sendFailure .stop
    ({ watch with run := none, status := .idle },
      [.clearDiagnostics, delivery run.worker .stop loss] ++ lossNote .debug "worker already gone" loss ++
        [.shutDown run.worker stopGrace, .note (.of .info "build worker stopped" [("generation", toString run.generation)]),
          .statusChanged .idle, .activeChanged false])

/-- Takes a change of the target over, and tells whether the worker has to be restarted for it. -/
def retarget (change : TargetChange) (watch : Watch) : Watch × List Effect × Bool :=
  let changed := { watch with target := watch.target.change change }
  if watch.isActive && !changed.target.equivalent watch.target then
    (changed, [.clearDiagnostics, .note (.of .info "configuration changed, restarting")], true)
  else (changed, [.clearDiagnostics], false)

/-- A running worker is restarted only if the target has really changed. -/
def configure (surroundings : Surroundings) (change : TargetChange) (watch : Watch) : Watch × List Effect :=
  match watch.retarget change with
  | (watch, effects, false) => (watch, effects)
  | (watch, effects, true) =>
    let (watch, stopping) := watch.stop surroundings
    let (watch, starting) := watch.start surroundings
    (watch, effects ++ stopping ++ starting)

def invalidate (surroundings : Surroundings) (watch : Watch) : Watch × List Effect :=
  match watch.run with
  | none => (watch, [])
  | some run =>
    let loss := surroundings.sendFailure .invalidate
    (watch, [.clearDiagnostics, delivery run.worker .invalidate loss] ++ lossNote .debug "invalidate not delivered" loss)

/-- Forgets the worker without asking it to stop. -/
def abandon (run : Run) (watch : Watch) : Watch × List Effect :=
  ({ watch with run := none },
    [.shutDown run.worker 0, .note (.of .warn "build worker lost" [("generation", toString run.generation)]), .activeChanged false])

def withStatus (status : BuildStatus) (watch : Watch) : Watch × List Effect :=
  ({ watch with status := status }, [.statusChanged status])

/-- The diagnostics of an outcome under the directory of its build, errors before warnings. -/
def diagnostics (outcome : Outcome) (root : Path) : List Diagnostic :=
  outcome.errors.filterMap (Dialect.diagnose .error · root) ++
    outcome.warnings.filterMap (Dialect.diagnose .warning · root)

def problemEffects (severity : Severity) (root : Path) (problem : String) : List Effect :=
  .log problem ::
    if (Dialect.diagnose severity problem root).isSome then []
    else [.note (.of .debug s!"no dialect matched {severity.label} output")]

/-- All diagnostics give way to those of the outcome. Problems that no dialect knows are only logged. -/
def outcomeEffects (outcome : Outcome) (root : Path) : List Effect :=
  [.clearDiagnostics, .log outcome.toJson.pretty] ++
    outcome.errors.flatMap (problemEffects .error root) ++
    outcome.warnings.flatMap (problemEffects .warning root) ++
    (Board.group (diagnostics outcome root)).map fun (file, items) => .publish file items

def onReport (run : Run) (report : Report) (watch : Watch) : Watch × List Effect :=
  match report with
  | .log items | .logError items => (watch, [.log (" ".intercalate items)])
  | .progress percent _ => watch.withStatus (.running percent)
  | .failure error =>
    let (watch, effects) := watch.withStatus .failure
    (watch, [.alert "webpack Error", .log error.pretty] ++ effects)
  | .finished outcome =>
    let (watch, effects) := watch.withStatus (if outcome.isClean then .success else .failure)
    (watch, outcomeEffects outcome run.workingDirectory ++ effects)

def exitText : Option Int → String
  | none => "signal"
  | some code => toString code

def crashEffects (code : Option Int) : List Effect :=
  if code = some 0 then [] else [.alert s!"webpack terminated unexpected with code: {exitText code}"]

def onEvent (run : Run) (event : WorkerEvent) (watch : Watch) : Watch × List Effect :=
  let lost (effects : List Effect) :=
    let (watch, leaving) := watch.abandon run
    (watch, effects ++ leaving)
  match event with
  | .reported report => watch.onReport run report
  | .exited code => lost (crashEffects code)
  | .failed reason => lost [.alert s!"webpack error: '{reason}'"]
  | .violated detail =>
    lost [.note (.of .error s!"protocol violation from worker: {detail}"),
      .alert s!"webpack worker sent an unknown message: {detail}"]

def staleNote (generation : UInt64) : Effect :=
  .note (.of .trace "dropping stale worker event" [("generation", toString generation)])

/-- Takes an event of a worker. Those of any but the present worker change nothing. -/
def receive (generation : UInt64) (event : WorkerEvent) (watch : Watch) : Watch × List Effect :=
  match watch.run with
  | some run =>
    if run.generation = generation then watch.onEvent run event
    else (watch, [staleNote generation])
  | none => (watch, [staleNote generation])

/-- The last stop of a watch. -/
def dispose (surroundings : Surroundings) (watch : Watch) : Watch × List Effect :=
  let (watch, effects) := watch.stop surroundings
  (watch, .note (.of .debug "disposing build supervisor") :: effects)

end Watch

/-- What an effect does to the board of a watch. -/
def Board.apply (board : Board) : Effect → Board
  | .clearDiagnostics => board.clear
  | .publish file items => board.set file items
  | _ => board

end BuildWatch
