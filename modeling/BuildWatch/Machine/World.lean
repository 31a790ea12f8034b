import BuildWatch.Machine.Image
import BuildWatch.Machine.Program
import BuildWatch.Machine.Signal

/-! A machine with files, streams and processes. A stream keeps what is written to it until it is read, and it
ends when nobody can write to it any more. Apart from programs a process may be an agent, whose
kind is left open here. -/

namespace BuildWatch.Machine

/-- What a descriptor stands for. -/
inductive Handle where
  | source (stream : Nat)
  /-- What is left of a file that had so many bytes. -/
  | stored (stream size : Nat)
  | sink (stream : Nat)
  | file (place : Location)
  | device (device : Device)
  deriving DecidableEq, Inhabited

abbrev Descriptors : Type := List (Nat × Handle)

namespace Descriptors

def get? (descriptors : Descriptors) (number : Nat) : Option Handle :=
  (descriptors.find? (·.1 == number)).map (·.2)

def erase (number : Nat) (descriptors : Descriptors) : Descriptors := descriptors.filter (·.1 != number)

def set (number : Nat) (handle : Handle) (descriptors : Descriptors) : Descriptors :=
  (number, handle) :: descriptors.erase number

/-- Where numbers that nobody has asked for begin. -/
def firstFree : Nat := 20

/-- A number above all that are in use. -/
def fresh (descriptors : Descriptors) : Nat := descriptors.foldl (fun fresh (number, _) => max fresh (number + 1)) firstFree

end Descriptors

inductive Body (α : Type) where
  | program (program : Program)
  | agent (agent : α)

structure Process (α : Type) where
  parent : Nat
  place : Location
  environment : Environment := []
  descriptors : Descriptors := []
  /-- Earlier descriptors that will come back, latest first. -/
  kept : List Descriptors := []
  dispositions : List (Nat × Disposition) := []
  /-- Caught signals that the program has not asked for yet. -/
  caught : List Nat := []
  suspended : Bool := false
  wakesAt : Option Nat := none
  body : Body α

/-- A process that has ended and whose parent has not asked for its status yet. -/
structure Ended where
  process : Nat
  parent : Nat
  status : ExitStatus

structure World (α : Type) where
  tree : FileTree
  /-- In millionths of a second. -/
  clock : Nat := 0
  streams : Array (List UInt8) := #[]
  processes : List (Nat × Process α) := []
  ended : List Ended := []
  nextProcess : Nat := 100
  /-- Stream ends that are held from outside. -/
  outside : List Handle := []

/-- Starts a program by its name, if there is one: a program of the machine or an agent. -/
abbrev Loader (α : Type) : Type := List String → String → Environment → Option (Body α)

namespace Process

variable {α : Type}

def disposition (process : Process α) (signal : Nat) : Disposition :=
  ((process.dispositions.find? (·.1 == signal)).map (·.2)).getD .standard

def holds (handle : Handle) (process : Process α) : Bool :=
  process.descriptors.any (·.2 == handle) || process.kept.any fun descriptors => descriptors.any (·.2 == handle)

end Process

namespace World

variable {α : Type}

/-- The parent of processes that were started from outside. -/
def outsider : Nat := 0

/-- The parent of processes whose parent has ended. -/
def guardian : Nat := 1

def process? (world : World α) (number : Nat) : Option (Process α) :=
  (world.processes.find? (·.1 == number)).map (·.2)

def setProcess (number : Nat) (process : Process α) (world : World α) : World α :=
  { world with processes := world.processes.map fun (other, held) => if other = number then (other, process) else (other, held) }

def isHeld (world : World α) (handle : Handle) : Bool :=
  world.outside.contains handle || world.processes.any fun (_, process) => process.holds handle

def content (world : World α) (stream : Nat) : List UInt8 := world.streams[stream]?.getD []

def setContent (stream : Nat) (bytes : List UInt8) (world : World α) : World α :=
  { world with streams := world.streams.setIfInBounds stream bytes }

def addStream (bytes : List UInt8) (world : World α) : World α × Nat :=
  ({ world with streams := world.streams.push bytes }, world.streams.size)

def append (stream : Nat) (bytes : List UInt8) (world : World α) : World α :=
  world.setContent stream (world.content stream ++ bytes)

/-- Nothing is left to read, and nothing can come any more. -/
def isDrained (world : World α) (stream : Nat) : Bool :=
  (world.content stream).isEmpty && !world.isHeld (.sink stream)

def addProcess (process : Process α) (world : World α) : World α × Nat :=
  ({ world with
      processes := world.processes ++ [(world.nextProcess, process)]
      nextProcess := world.nextProcess + 1 },
    world.nextProcess)

/-- Ends a process. What it leaves behind is looked after by nobody. -/
def finish (number : Nat) (status : ExitStatus) (world : World α) : World α :=
  match world.process? number with
  | none => world
  | some process =>
    let parent := process.parent
    let mourned := parent = outsider || (world.process? parent).isSome
    let others := world.processes.filter (·.1 != number)
    { world with
      processes := others.map fun (other, held) =>
        (other, if held.parent = number then { held with parent := guardian } else held)
      ended := world.ended.filter (·.parent != number) ++ if mourned then [⟨number, parent, status⟩] else [] }

/-- The status of an ended child, which is given only once. -/
def reap (parent child : Nat) (world : World α) : Option (World α × ExitStatus) :=
  match world.ended.find? fun ended => ended.process = child && ended.parent = parent with
  | none => none
  | some found => some ({ world with ended := world.ended.filter (·.process != child) }, found.status)

def signal (number signal : Nat) (world : World α) : World α :=
  match world.process? number with
  | none => world
  | some process =>
    if signal = 0 then world
    else if signal = Signal.kill then world.finish number (.signal signal)
    else if signal = Signal.suspend then world.setProcess number { process with suspended := true }
    else
      let process := if signal = Signal.resume then { process with suspended := false } else process
      match process.disposition signal with
      | .ignored => world.setProcess number process
      | .caught => world.setProcess number { process with caught := process.caught ++ [signal] }
      | .standard =>
        if Signal.isHarmless signal then world.setProcess number process else world.finish number (.signal signal)

/-- A process, and those that it and they have started. Parents stand in front of their children. -/
def household (number : Nat) (world : World α) : List Nat :=
  world.processes.foldl (fun found (other, process) => if found.contains process.parent then found ++ [other] else found) [number]

/-- The value of a setting, as text. -/
def setting? (environment : Environment) (name : String) : Option String :=
  (environment.find? (·.1 == name)).map fun (_, value) => ByteText.toText value

def searchPath (environment : Environment) : List String :=
  ((setting? environment "PATH").getD "/usr/local/bin:/usr/bin:/bin").splitOn ":"

/-- Why a program cannot be started in a directory, if it cannot. -/
def imageIn (world : World α) (place : Location) (environment : Environment) (directory program : Path)
    (arguments : List String) : Except FileError (Location × Image) :=
  if (directory.text :: program.text :: arguments).any (·.toList.contains '\x00') then .error .holdsNul
  else
    match world.tree.locate place directory with
    | .error fault => .error fault
    | .ok inner =>
      if !((world.tree.root.get? inner).map Node.isDirectory).getD false then .error .notDirectory
      else
        let arguments := (program.text :: arguments).map ByteText.ofText
        (Image.find world.tree inner (searchPath environment) program arguments).map fun image => (inner, image)

/-- Starts a program as a child of a process. -/
def spawn (load : Loader α) (parent : Nat) (environment : Environment) (inner : Location) (image : Image)
    (descriptors : Descriptors) (world : World α) : World α × Option Nat :=
  match load image.arguments image.program environment with
  | none => (world, none)
  | some body =>
    let (world, number) := world.addProcess { parent, place := inner, environment, descriptors, body }
    (world, some number)

end World

end BuildWatch.Machine
