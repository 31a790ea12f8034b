import BuildWatch.Check
import BuildWatch.CommandLine
import BuildWatch.Console
import BuildWatch.Link
import BuildWatch.Machine.World
import BuildWatch.Terminal
import BuildWatch.Worker

/-! Agents of a rehearsal. An agent is one process of the program: it looks after child processes, takes in what
comes, and does its tasks one after the other. -/

namespace BuildWatch.Rehearsal

open Machine

/-- A child process in an agent's care. Descriptors are those of the agent, as long as they are open. -/
structure Ward where
  process : Nat
  child : Child := {}
  input : Option Nat
  output : Option Nat
  error : Option Nat
  outputLines : LineStream := {}
  errorLines : LineStream := {}
  /-- Tells the events of one child from those of others. -/
  generation : UInt64 := 0
  /-- A write to the child has failed. -/
  inputLost : Bool := false
  graceEnds : Option Nat := none
  drainEnds : Option Nat := none
  deriving Inhabited

/-- What an agent learns about its wards. -/
inductive Notice where
  | output (ward : Nat) (output : ProcessOutput)
  | writeFailed (ward : Nat) (cause : String)
  deriving DecidableEq, Inhabited

inductive Task where
  /-- Finds out what the agent is called for. -/
  | begin
  | print (text : String)
  | note (record : LogRecord)
  | complain (text : String)
  | spawn (ward : Nat) (generation : UInt64) (program : Path) (arguments : List String) (directory : Path)
  | send (ward : Nat) (text : String)
  | closeInput (ward : Nat)
  | shutDown (ward graceMillis : Nat)
  | drop (ward : Nat)
  | exit (code : Nat)
  deriving Inhabited

/-- What an agent is there for. -/
inductive Role where
  /-- Not known yet. -/
  | called (arguments : List String)
  /-- Only listens to its wards. -/
  | listener (heard : List Notice)
  | worker (service : Service)
  | console (console : Console) (tool : String) (options : CommandLine.SettingsOptions) (project : Path)
  | terminal (run : TerminalRun) (tool : String)
  /-- Checks what comes in when it has come to its end. -/
  | checker (question : Check.Question) (content : List UInt8)
  deriving Inhabited

structure Agent where
  role : Role
  filter : LogFilter := .standard
  wards : List (Nat × Ward) := []
  inbox : List Notice := []
  tasks : List Task := []
  input : LineStream := {}
  /-- What has come in, line by line. -/
  lines : List InputEvent := []
  inputEnded : Bool := false
  deriving Inhabited

namespace Agent

def ward? (agent : Agent) (key : Nat) : Option Ward := (agent.wards.find? (·.1 == key)).map (·.2)

def setWard (key : Nat) (ward : Ward) (agent : Agent) : Agent :=
  { agent with wards := agent.wards.map fun (other, held) => if other = key then (other, ward) else (other, held) }

def addWard (key : Nat) (ward : Ward) (agent : Agent) : Agent := { agent with wards := agent.wards ++ [(key, ward)] }

def addTasks (tasks : List Task) (agent : Agent) : Agent := { agent with tasks := agent.tasks ++ tasks }

/-- When an agent has something to do by the clock. -/
def alarms (agent : Agent) : List Nat :=
  agent.wards.flatMap fun (_, ward) => ward.graceEnds.toList ++ ward.drainEnds.toList

/-- The variable that names the filter of the log. -/
def logVariable : String := "RUST_LOG"

/-- The filter that the surroundings of a process ask for. -/
def filterFor (environment : Environment) : LogFilter :=
  match World.setting? environment logVariable with
  | some name => .named name
  | none => .standard

/-- An agent that has been called with arguments. -/
def ofCall (arguments : List String) (environment : Environment) : Agent :=
  { role := .called arguments, filter := filterFor environment, tasks := [.begin] }

end Agent

/-- The name under which the program is known to its machine. -/
def programName : String := "watch-runner"

def programPath : Path := ⟨"/usr/local/bin/" ++ programName⟩

end BuildWatch.Rehearsal
