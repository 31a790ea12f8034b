import BuildWatch.Observers
import BuildWatch.Text.Lines
import BuildWatch.Text.Stream
import BuildWatch.Watch

/-! A watch in a terminal. Each finished build writes one line, input is echoed, and the character that
an interrupt key sends closes the watch. -/

namespace BuildWatch

structure Terminal where
  watch : Watch
  /-- Who is told about the build status; each of them writes a line for a result. -/
  observers : Observers Unit := {}
  subscription : Option UInt64 := none
  /-- Text that waits to be written, oldest first. -/
  pending : List String := []
  deriving Inhabited

namespace Terminal

def interrupt : String := "\x03"

def resultLine? : BuildStatus → Option String
  | .success => some "Build successful\r\n"
  | .failure => some "Build failed\r\n"
  | _ => none

/-- Line feeds without the carriage returns directly before them. -/
def joinLineEnds : List Char → List Char
  | '\r' :: '\n' :: rest => '\n' :: joinLineEnds rest
  | c :: rest => c :: joinLineEnds rest
  | [] => []

def addReturns : List Char → List Char
  | [] => []
  | c :: rest => if c = '\n' then '\r' :: '\n' :: addReturns rest else c :: addReturns rest

def echo (data : String) : String := String.ofList (addReturns (joinLineEnds data.toList))

def write (text : String) (terminal : Terminal) : Terminal := { terminal with pending := terminal.pending ++ [text] }

/-- Tells the observers what an effect means for them. -/
def notice (terminal : Terminal) : Effect → Terminal
  | .statusChanged status =>
    match resultLine? status with
    | some line => { terminal with pending := terminal.pending ++ terminal.observers.called.map fun _ => line }
    | none => terminal
  | _ => terminal

/-- Takes over the outcome of an operation of the watch. -/
def adopt (terminal : Terminal) (result : Watch × List Effect) : Terminal × List Effect :=
  (result.2.foldl notice { terminal with watch := result.1 }, result.2)

def releaseSubscription (terminal : Terminal) (subscription : Option UInt64) : Terminal :=
  match subscription with
  | some number => { terminal with observers := terminal.observers.release number }
  | none => terminal

/-- Starts the watch. A terminal that is opened again is still told only once. -/
def start (surroundings : Surroundings) (terminal : Terminal) : Terminal × List Effect :=
  let (observers, number) := terminal.observers.subscribe ()
  let renewed := { terminal with observers := observers, subscription := some number }
  let renewed := renewed.releaseSubscription terminal.subscription
  renewed.adopt (renewed.watch.start surroundings)

def close (surroundings : Surroundings) (terminal : Terminal) : Terminal × List Effect :=
  let (terminal, effects) := terminal.adopt (terminal.watch.stop surroundings)
  ({ terminal.releaseSubscription terminal.subscription with subscription := none }, effects)

/-- Takes input, and tells whether the terminal is still open. -/
def input (surroundings : Surroundings) (data : String) (terminal : Terminal) : Terminal × List Effect × Bool :=
  if data = interrupt then
    let (terminal, effects) := terminal.close surroundings
    (terminal, effects, false)
  else (terminal.write (echo data), [], true)

end Terminal

/-- How a terminal's run has ended. Input that is no text ends it for the given reason. -/
inductive RunEnd where
  | completed
  | failed (reason : String)
  deriving DecidableEq, Inhabited

def RunEnd.inputFault : String := "Failed to read task input"

/-- The three things a running terminal waits for. -/
inductive Wakeup where
  | output
  | event (generation : UInt64) (event : WorkerEvent)
  | input (event : InputEvent)
  deriving Inhabited

/-- A terminal between its opening and its end, with all it has written. -/
structure TerminalRun where
  terminal : Terminal
  written : List String := []
  ending : Option RunEnd := none
  deriving Inhabited

namespace TerminalRun

def begin (surroundings : Surroundings) (terminal : Terminal) : TerminalRun × List Effect :=
  let (terminal, effects) := terminal.start surroundings
  (⟨terminal, [], none⟩, effects)

/-- Writes all that is pending and releases the watch. -/
def complete (surroundings : Surroundings) (run : TerminalRun) : TerminalRun × List Effect :=
  let (terminal, effects) := run.terminal.adopt (run.terminal.watch.dispose surroundings)
  (⟨{ terminal with pending := [] }, run.written ++ run.terminal.pending, some .completed⟩, effects)

def afterInput (surroundings : Surroundings) (run : TerminalRun) (result : Terminal × List Effect × Bool) :
    TerminalRun × List Effect :=
  let (terminal, effects, stillOpen) := result
  if stillOpen then ({ run with terminal }, effects)
  else
    let (run, more) := complete surroundings { run with terminal }
    (run, effects ++ more)

def isInterruptLine (line : String) : Bool :=
  String.ofList (Text.dropEndWhile (· = '\r') line.toList) = Terminal.interrupt

def onInput (surroundings : Surroundings) (run : TerminalRun) : InputEvent → TerminalRun × List Effect
  | .line text =>
    let data := if isInterruptLine text then Terminal.interrupt else text ++ "\n"
    run.afterInput surroundings (run.terminal.input surroundings data)
  | .finished =>
    let (terminal, effects) := run.terminal.close surroundings
    run.afterInput surroundings (terminal, effects, false)
  | .unreadable reason => ({ run with ending := some (.failed reason) }, [])

/-- One turn of a run. A run that has ended takes no notice of anything. -/
def step (surroundings : Surroundings) (run : TerminalRun) (wakeup : Wakeup) : TerminalRun × List Effect :=
  if run.ending.isSome then (run, [])
  else
    match wakeup with
    | .output =>
      match run.terminal.pending with
      | [] => (run, [])
      | text :: rest => ({ run with terminal := { run.terminal with pending := rest }, written := run.written ++ [text] }, [])
    | .event generation event =>
      let (terminal, effects) := run.terminal.adopt (run.terminal.watch.receive generation event)
      ({ run with terminal }, effects)
    | .input event => run.onInput surroundings event

end TerminalRun

end BuildWatch
