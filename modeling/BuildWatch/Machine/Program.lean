import BuildWatch.FileTree
import BuildWatch.Text.ByteText

/-! Programs of a small machine. A program is what it asks the machine for next, and how it goes on with
the answer; between two calls it computes without being seen. -/

namespace BuildWatch.Machine

inductive ExitStatus where
  | code (value : Nat)
  | signal (number : Nat)
  deriving DecidableEq, Inhabited

inductive OpenMode where
  | read
  | write
  | append
  deriving DecidableEq, Inhabited

inductive FileKind where
  | directory
  | file (size : Nat) (executable : Bool)
  | device
  deriving DecidableEq, Inhabited

/-- What a signal does to a process. A signal that is caught waits until the program asks for it. -/
inductive Disposition where
  | standard
  | ignored
  | caught
  deriving DecidableEq, Inhabited

/-- Names with their values, as a program hands them on to the programs it starts. Both are bytes. -/
abbrev Environment : Type := List (String × String)

/-- Descriptors are numbers that a program gives to its open files and stream ends. Paths and other texts of a program
are bytes. -/
inductive Call where
  /-- At most so many bytes; none at the end of the input. -/
  | read (descriptor limit : Nat)
  | write (descriptor : Nat) (bytes : List UInt8)
  | openFile (descriptor : Nat) (path : Path) (mode : OpenMode)
  | openText (descriptor : Nat) (bytes : List UInt8)
  /-- Has bytes that were read from a file read again. -/
  | giveBack (descriptor : Nat) (bytes : List UInt8)
  /-- The size of the file that is being read. -/
  | storedSize (descriptor : Nat)
  | duplicate (source target : Nat)
  | close (descriptor : Nat)
  /-- A stream under two descriptors that were free, reading end first. -/
  | connect
  | keepDescriptors
  | restoreDescriptors
  | sleep (micros : Nat)
  | wait (process : Nat)
  /-- Like `wait`, but a caught signal ends the wait. -/
  | waitForNews (process : Nat)
  /-- The status of a child if it has ended. -/
  | poll (process : Nat)
  | kill (process signal : Nat)
  /-- Sends a signal to a process and to all that it has started. -/
  | killAll (process signal : Nat)
  | dispose (signal : Nat) (disposition : Disposition)
  | caughtSignals
  | inspect (path : Path)
  | entries (path : Path)
  /-- The names on the way to what a path leads to. -/
  | locate (path : Path)
  | enter (path : Path)
  | currentDirectory
  | remove (path : Path)
  | makeDirectory (path : Path)
  | touch (path : Path)
  | allowExecution (path : Path) (allowed : Bool)
  | processNumber
  | parentNumber
  /-- Makes the process another program. There is an answer only if that fails. -/
  | execute (path : Path) (arguments : List String) (environment : Environment)
  /-- Nothing, but others get their turn. -/
  | pause
  deriving Inhabited

inductive Reply where
  | done
  | failed (fault : FileError)
  | bytes (bytes : List UInt8)
  | number (value : Nat)
  | numbers (values : List Nat)
  /-- A caught signal came first. -/
  | interrupted (signal : Nat)
  | pair (first second : Nat)
  | status (status : ExitStatus)
  | kind (kind : FileKind)
  | text (text : String)
  | names (names : List String)
  deriving Inhabited

inductive Program where
  | exit (code : Nat)
  | call (request : Call) (next : Reply → Program)
  /-- A copy of the process runs the child; the parent learns its number. -/
  | fork (child : Program) (next : Nat → Program)

instance : Inhabited Program := ⟨.exit 0⟩

namespace Program

/-- How many rounds a loop of a program may take. -/
def rounds : Nat := 10000000

/-- Makes a call whose answer does not matter. -/
def perform (request : Call) (next : Unit → Program) : Program := .call request fun _ => next ()

def performAll (requests : List Call) (next : Unit → Program) : Program :=
  match requests with
  | [] => next ()
  | request :: rest => perform request fun _ => performAll rest next

def writeText (descriptor : Nat) (text : String) (next : Unit → Program) : Program :=
  if text.isEmpty then next () else perform (.write descriptor (ByteText.toBytes text)) next

/-- The same program with other calls in the place of its own. Programs that it starts are its own too. -/
def mapCalls (change : Call → Call) : Program → Program
  | exit code => exit code
  | call request next => call (change request) fun reply => mapCalls change (next reply)
  | fork child next => fork (mapCalls change child) fun process => mapCalls change (next process)

/-- Reads on to the end of the input. -/
def readAll (descriptor : Nat) (next : List UInt8 → Program) : Program :=
  go rounds []
where
  go : Nat → List (List UInt8) → Program
    | 0, _ => .exit 1
    | fuel + 1, pieces =>
      .call (.read descriptor 65536) fun
        | .bytes (byte :: more) => go fuel ((byte :: more) :: pieces)
        | _ => next pieces.reverse.flatten

end Program

end BuildWatch.Machine
