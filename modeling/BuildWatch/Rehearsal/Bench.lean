import BuildWatch.Rehearsal.Session

/-! A bench for a single child process: somebody who listens to it, writes to it and ends it. -/

namespace BuildWatch.Rehearsal

open Machine

structure Bench where
  world : World Agent
  number : Nat

namespace Bench

/-- The only child of a bench. -/
def key : Nat := 0

def begin (tree : FileTree) (place : Location) (environment : Environment) : Bench :=
  let world : World Agent := { tree }
  let (world, number) := world.addProcess
    { parent := World.outsider
      place := place
      environment := environmentWith environment
      body := .agent { role := .listener [] } }
  { world, number }

def agent? (bench : Bench) : Option Agent :=
  (bench.world.process? bench.number).bind fun process =>
    match process.body with
    | .agent agent => some agent
    | .program _ => none

/-- What has been heard so far, in order. -/
def heard (bench : Bench) : List Notice :=
  match bench.agent? with
  | some { role := .listener heard, .. } => heard
  | _ => []

def isIdle (bench : Bench) : Bool := bench.agent?.all fun agent => agent.tasks.isEmpty

/-- Gives the listener something to do. -/
def ask (task : Task) (bench : Bench) : Bench :=
  match bench.world.process? bench.number, bench.agent? with
  | some process, some agent =>
    let process := { process with body := .agent (agent.addTasks [task]) }
    { bench with world := bench.world.setProcess bench.number process }
  | _, _ => bench

/-- How long a bench waits for anything. -/
def patienceMicros : Nat := 600000000

def runUntil (goal : Bench → Bool) (bench : Bench) : Bench :=
  let reached (world : World Agent) : Bool := goal { bench with world }
  let (world, _) := bench.world.runUntil conduct reached (bench.world.clock + patienceMicros) World.rounds
  { bench with world }

/-- Has a task done, however long it takes. -/
def carryOut (task : Task) (bench : Bench) : Bench := (bench.ask task).runUntil isIdle

/-- Why the child of a bench could not be started, if it could not. -/
def spawnFault? (bench : Bench) (directory program : Path) (arguments : List String) : Option FileError :=
  match bench.world.process? bench.number with
  | none => some .notFound
  | some process =>
    match bench.world.imageIn process.place process.environment directory program arguments with
    | .ok _ => none
    | .error fault => some fault

def spawn (generation : UInt64) (directory program : Path) (arguments : List String) (bench : Bench) : Bench :=
  bench.carryOut (.spawn key generation program arguments directory)

def isExit : Notice → Bool
  | .output _ (.exited _) => true
  | _ => false

def hasExited (bench : Bench) : Bool := bench.heard.any isExit

/-- A write to the child has failed, and nothing more can be written to it. -/
def isClosed (bench : Bench) : Bool := ((bench.agent?.bind (·.ward? key)).map (·.inputLost)).getD true

def outputs (bench : Bench) : List ProcessOutput :=
  bench.heard.filterMap fun
    | .output _ output => some output
    | .writeFailed .. => none

def change (change : FileTree → FileTree) (bench : Bench) : Bench :=
  { bench with world := { bench.world with tree := change bench.world.tree } }

/-- The events of a worker that have been heard. -/
def events (bench : Bench) : List WorkerEvent :=
  bench.heard.filterMap fun
    | .output _ output => Link.event? output
    | .writeFailed _ cause => some (Link.writeFailure cause)

end Bench

end BuildWatch.Rehearsal
