import BuildWatch.Machine.Answer

/-! Runs of a machine. Processes take turns, and time passes in leaps when nobody has anything left to do. -/

namespace BuildWatch.Machine

/-- How the agents of a machine behave, and how its programs are found. -/
structure Conduct (α : Type) where
  load : Loader α
  /-- What an agent does with its turn, if it has anything to do. -/
  turn : World α → Nat → Process α → α → Option (World α)
  /-- The times at which an agent has something to do. -/
  alarms : α → List Nat

namespace World

variable {α : Type}

/-- How long a call takes. -/
def callMicros : Call → Nat
  | .pause => 10
  | _ => 1

def pass (micros : Nat) (world : World α) : World α := { world with clock := world.clock + micros }

/-- A program that has begun to sleep makes its call again when it is time. -/
def settleReply (number : Nat) (process : Process α) (request : Call) (next : Reply → Program) (reply : Reply)
    (world : World α) : World α :=
  match request, reply with
  | .sleep _, .number _ => world
  | _, reply =>
    match world.process? number with
    | none => world
    | some after => world.setProcess number { after with body := match process.body with
        | .program _ => .program (next reply)
        | .agent agent => .agent agent }

/-- One step of a program, if it can take one. -/
def stepProgram (conduct : Conduct α) (number : Nat) (process : Process α) (world : World α) :
    Program → Option (World α)
  | .exit code => some (world.finish number (.code (code % 256)))
  | .fork child next =>
    let copy := { process with parent := number, body := .program child, caught := [], wakesAt := none }
    let (world, born) := world.addProcess copy
    some ((world.setProcess number { process with body := .program (next born) }).pass 1)
  | .call request next =>
    match World.Caller.answer conduct.load ⟨world, number, process⟩ request with
    | .blocked => none
    | .gone world => some (world.pass (callMicros request))
    | .reply world reply => some ((world.settleReply number process request next reply).pass (callMicros request))

def stepProcess (conduct : Conduct α) (number : Nat) (world : World α) : Option (World α) :=
  match world.process? number with
  | none => none
  | some process =>
    if process.suspended then none
    else
      match process.body with
      | .program program => world.stepProgram conduct number process program
      | .agent agent => conduct.turn world number process agent

/-- At most so many steps of one process, and whether it has taken any. -/
def turnOf (conduct : Conduct α) (number : Nat) : Nat → World α → World α × Bool
  | 0, world => (world, false)
  | count + 1, world =>
    match world.stepProcess conduct number with
    | none => (world, false)
    | some world => ((world.turnOf conduct number count).1, true)

/-- How many steps a process takes in its turn. -/
def stepsPerTurn : Nat := 64

/-- A turn of each process, and whether any of them has done anything. -/
def round (conduct : Conduct α) (world : World α) : World α × Bool :=
  world.processes.foldl (fun (world, acted) (number, _) =>
    let (world, more) := world.turnOf conduct number stepsPerTurn
    (world, acted || more)) (world, false)

/-- The next time at which anybody has something to do. -/
def nextAlarm? (conduct : Conduct α) (world : World α) : Option Nat :=
  let times := world.processes.flatMap fun (_, process) =>
    process.wakesAt.toList ++
      match process.body with
      | .program _ => []
      | .agent agent => conduct.alarms agent
  (times.filter (world.clock < ·)).min?

/-- Why a run has come to its end. -/
inductive RunEnd where
  | reached
  | resting
  | late
  | exhausted
  deriving DecidableEq, Inhabited

/-- Runs until a goal is reached, until nothing more can happen, or until it is too late. -/
def runUntil (conduct : Conduct α) (goal : World α → Bool) (deadline : Nat) : Nat → World α → World α × RunEnd
  | 0, world => (world, .exhausted)
  | fuel + 1, world =>
    if goal world then (world, .reached)
    else if deadline < world.clock then (world, .late)
    else
      match world.round conduct with
      | (world, true) => world.runUntil conduct goal deadline fuel
      | (world, false) =>
        match world.nextAlarm? conduct with
        | none => (world, .resting)
        | some time =>
          if deadline < time then ({ world with clock := max world.clock deadline }, .late)
          else { world with clock := time }.runUntil conduct goal deadline fuel

/-- How many rounds a run may take. -/
def rounds : Nat := 1000000000

end World

end BuildWatch.Machine
