import BuildWatch.Machine.Program
import BuildWatch.Machine.Signal
import BuildWatch.Shell.Source

/-! What a shell keeps between commands: variables, functions, arguments, traps, options, and how the command
before went. -/

namespace BuildWatch.Shell

/-- A variable may have properties before it has a value. -/
structure Variable where
  value : Option String := none
  exported : Bool := false
  fixed : Bool := false
  deriving Inhabited

/-- A way out of the commands that are being carried out. -/
inductive Jump where
  | leaveLoops (count : Nat)
  | nextRound (count : Nat)
  /-- Ends a function or a file of commands, perhaps with a status of its own. -/
  | leaveFunction (withStatus : Bool)
  /-- The present command cannot go on. -/
  | giveUp
  /-- Ends the shell, perhaps because that was asked for. -/
  | leaveShell (asked : Bool)
  deriving DecidableEq, Inhabited

/-- How far the arguments of a script have been looked through for options. -/
structure OptionScan where
  position : Nat := 1
  /-- Where the next letter stands in the word before. -/
  offset : Option Nat := none
  deriving DecidableEq, Inhabited

/-- What a running function hides. -/
structure Scope where
  hidden : List (String × Option Variable) := []
  options : Option (List Char) := none
  deriving Inhabited

/-- Something in the background. Its status, which is that of its last process, is known when it has ended and that
has been noticed. -/
structure Job where
  number : Nat
  process : Nat
  /-- Processes whose output goes to the last one. -/
  earlier : List Nat := []
  status : Option Nat := none
  /-- The status has been asked for. -/
  waited : Bool := false
  deriving DecidableEq, Inhabited

structure State where
  name : String := "sh"
  arguments : List String := []
  bindings : List (String × Variable) := []
  functions : List (String × Command) := []
  aliases : Aliases := []
  status : Nat := 0
  jump : Option Jump := none
  process : Nat := 0
  /-- Latest first. -/
  jobs : List Job := []
  /-- The last process that was put into the background. -/
  latest : Option Nat := none
  /-- Commands by the names of the signals they answer; the end of the shell counts as one. -/
  traps : List (String × String) := []
  line : Nat := 1
  /-- The command of the shell that complains. -/
  speaker : Option String := none
  /-- The status of the last substitution in the present command. -/
  substituted : Option Nat := none
  /-- Nothing is left for this shell to do behind the present command. -/
  isLast : Bool := false
  /-- A failure is expected here and ends nothing. -/
  guarded : Bool := false
  /-- The letters of the options that are on. -/
  options : List Char := []
  scan : OptionScan := {}
  /-- Which permissions new files do not get. -/
  mask : Nat := 18
  /-- Loops around the present command, within the running function. -/
  loops : Nat := 0
  /-- What each of the running functions hides, innermost first. -/
  scopes : List Scope := []
  /-- Commands that have been looked up, and where in the search path they were found. -/
  tracked : List (String × Nat) := []
  /-- The status in front of the trap that is being carried out. -/
  statusBefore : Option Nat := none
  deriving Inhabited

namespace State

/-- The options by name, in the order in which they are listed. -/
def optionNames : List (String × Option Char) :=
  [("errexit", some 'e'), ("noglob", some 'f'), ("ignoreeof", some 'I'), ("interactive", some 'i'), ("monitor", some 'm'),
    ("noexec", some 'n'), ("stdin", some 's'), ("xtrace", some 'x'), ("verbose", some 'v'), ("vi", some 'V'),
    ("emacs", some 'E'), ("noclobber", some 'C'), ("allexport", some 'a'), ("notify", some 'b'), ("nounset", some 'u'),
    ("privileged", some 'p'), ("nolog", none), ("debug", none)]

def isOn (letter : Char) (state : State) : Bool := state.options.contains letter

def switch (letter : Char) (value : Bool) (state : State) : State :=
  let others := state.options.filter (· != letter)
  { state with options := if value then letter :: others else others }

/-- The letters of the options that are on, in the order in which they are shown. -/
def optionLetters (state : State) : String :=
  String.ofList ((optionNames.filterMap (·.2)).reverse.filter fun letter => state.isOn letter)

def binding? (state : State) (name : String) : Option Variable :=
  (state.bindings.find? (·.1 == name)).map (·.2)

def value? (state : State) (name : String) : Option String := (state.binding? name).bind (·.value)

def valueOf (state : State) (name : String) : String := (state.value? name).getD ""

def isFixed (state : State) (name : String) : Bool := ((state.binding? name).map (·.fixed)).getD false

def numeral? (text : String) : Option Nat :=
  if text.isEmpty || text.any (!·.isDigit) then none
  else some (text.toList.foldl (fun value c => value * 10 + (c.toNat - '0'.toNat)) 0)

def setBinding (name : String) (entry : Variable) (state : State) : State :=
  if (state.binding? name).isSome then
    { state with bindings := state.bindings.map fun (other, held) => if other = name then (other, entry) else (other, held) }
  else { state with bindings := state.bindings ++ [(name, entry)] }

/-- Variables that cannot be changed keep their values. -/
def assign (name value : String) (state : State) : State :=
  let held := (state.binding? name).getD {}
  if held.fixed then state
  else
    let state := state.setBinding name { held with value := some value, exported := held.exported || state.isOn 'a' }
    match name with
    | "OPTIND" => { state with scan := { position := (numeral? value).getD 1 } }
    | "PATH" => { state with tracked := [] }
    | _ => state

def assignAll (values : List (String × String)) (state : State) : State :=
  values.foldl (fun state (name, value) => state.assign name value) state

def unset (name : String) (state : State) : State :=
  let state := if name = "PATH" then { state with tracked := [] } else state
  { state with bindings := state.bindings.filter (·.1 != name) }

def restore (state : State) (name : String) (entry : Option Variable) : State :=
  let state := if name = "PATH" then { state with tracked := [] } else state
  match entry with
  | some entry => state.setBinding name entry
  | none => state.unset name

def restoreAll (hidden : List (String × Option Variable)) (state : State) : State :=
  hidden.foldl (fun state (name, entry) => state.restore name entry) state

def mark (change : Variable → Variable) (name : String) (state : State) : State :=
  state.setBinding name (change ((state.binding? name).getD {}))

def exportName : String → State → State := mark fun entry => { entry with exported := true }

def fixName : String → State → State := mark fun entry => { entry with fixed := true }

/-- Names are kept in so many heaps, and listed heap by heap. -/
def heaps : Nat := 39

def heapOf (heaps : Nat) (name : String) : Nat :=
  let codes := name.toList.map Char.toNat
  (codes.headD 0 * 16 + codes.foldl (· + ·) 0) % heaps

def byHeapOf (heaps : Nat) (entries : List (String × α)) : List (String × α) :=
  (List.range heaps).flatMap fun heap => entries.filter fun (name, _) => heapOf heaps name = heap

def byHeap (entries : List (String × α)) : List (String × α) := byHeapOf heaps entries

/-- Leaves functions, until no more than so many are running. -/
def leaveScopes (depth : Nat) (state : State) : State :=
  let count := state.scopes.length - depth
  { (state.scopes.take count).foldl leave state with scopes := state.scopes.drop count }
where
  leave (state : State) (scope : Scope) : State :=
    let state := state.restoreAll scope.hidden
    match scope.options with
    | some options => { state with options }
    | none => state

/-- What a started program gets to know. -/
def environment (state : State) : Machine.Environment :=
  (byHeap state.bindings).filterMap fun (name, entry) =>
    if entry.exported then entry.value.map fun value => (name, value) else none

def ofEnvironment (environment : Machine.Environment) : List (String × Variable) :=
  (environment.filter fun (name, _) => Source.isName name.toList).map fun (name, value) =>
    (name, { value := some value, exported := true })

def function? (state : State) (name : String) : Option Command :=
  (state.functions.find? (·.1 == name)).map (·.2)

def define (name : String) (body : Command) (state : State) : State :=
  { state with functions := (name, body) :: state.functions.filter (·.1 != name) }

def alias? (state : State) (name : String) : Option String := (state.aliases.find? (·.1 == name)).map (·.2)

def trap? (state : State) (name : String) : Option String := (state.traps.find? (·.1 == name)).map (·.2)

/-- A job that has been waited for makes room for a new one. -/
def addJob (process : Nat) (earlier : List Nat) (state : State) : State :=
  let isFree (number : Nat) : Bool := state.jobs.all fun job => job.number != number || (job.status.isSome && job.waited)
  let number := ((List.range (state.jobs.length + 1)).find? fun index => isFree (index + 1)).getD 0 + 1
  let jobs := state.jobs.filter (·.number != number)
  { state with jobs := { number, process, earlier } :: jobs, latest := some process }

def settle (status : Nat) (state : State) : State := { state with status }

def separators (state : State) : List Char := ((state.value? "IFS").getD " \t\n").toList

def joiner (state : State) : String := String.ofList (state.separators.take 1)

/-- New arguments are looked through from the front. -/
def withArguments (arguments : List String) (state : State) : State := { state with arguments, scan := {} }

/-- The value of a parameter, if it is set. -/
def parameter? (state : State) (name : String) : Option String :=
  match name with
  | "?" => some (toString state.status)
  | "#" => some (toString state.arguments.length)
  | "$" => some (toString state.process)
  | "!" => state.latest.map toString
  | "-" => some state.optionLetters
  | "@" => some (" ".intercalate state.arguments)
  | "*" => some (state.joiner.intercalate state.arguments)
  | name =>
    match numeral? name with
    | some 0 => some state.name
    | some position => state.arguments[position - 1]?
    | none => state.value? name

/-- How a shell ends that has nothing more to do. -/
def leave (state : State) : Machine.Program := .exit (state.status % 256)

/-- The signals that have commands of their own. -/
def caughtSignals (state : State) : List Nat :=
  (state.traps.filter fun (name, action) => name != "EXIT" && !action.isEmpty).filterMap fun (name, _) =>
    Machine.Signal.parse? name

def forgetCaught (state : State) (next : Unit → Machine.Program) : Machine.Program :=
  .performAll (state.caughtSignals.map fun signal => .dispose signal .standard) next

/-- A shell that goes on in a process of its own keeps no traps but those that ignore. -/
def detached (state : State) : State :=
  { state with
    traps := state.traps.filter fun (_, action) => action.isEmpty
    jobs := []
    isLast := true }

/-- The command that is carried out now is followed by others. -/
def inMiddle (state : State) : State := { state with isLast := false }

/-- The command may take the place of the shell. -/
def mayBeReplaced (state : State) : Bool := state.isLast && state.traps.all fun (_, action) => action.isEmpty

/-- The command of the shell that complains is another one now. -/
def spokenBy (speaker : Option String) (state : State) : State := { state with speaker }

/-- A message of the shell, or of the command of it that is being carried out. -/
def complaint (state : State) (text : String) : String :=
  match state.speaker with
  | some speaker => s!"{state.name}: {state.line}: {speaker}: {text}\n"
  | none => s!"{state.name}: {state.line}: {text}\n"

/-- Text in quotes from which a shell would read it back. -/
def inQuotes (text : String) : String :=
  let pieces := (text.toList.splitBy fun a b => (a = '\'') == (b = '\'')).map fun piece =>
    if piece.head? = some '\'' then "\"" ++ String.ofList piece ++ "\"" else "'" ++ String.ofList piece ++ "'"
  match pieces with
  | [] => "''"
  | first :: _ => (if first.startsWith "\"" then "''" else "") ++ String.join pieces

end State

end BuildWatch.Shell
