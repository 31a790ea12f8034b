import BuildWatch.Shell.Lookup
import BuildWatch.Text.Figure
import BuildWatch.Toolbox.Options
import BuildWatch.Toolbox.Paths

/-! Programs that wait, and programs that become another program once they have arranged its surroundings. -/

namespace BuildWatch.Toolbox

open Machine

/-- A span of time: a number, perhaps with a unit behind it. -/
def micros? (text : String) : Option Nat :=
  let units : List (List Char × Nat) := [([], 1), (['s'], 1), (['m'], 60), (['h'], 3600), (['d'], 86400)]
  match Figure.readDecimal text.toList with
  | some (⟨false, .fraction num den⟩, rest) =>
    (units.find? (·.1 == rest)).map fun (_, seconds) => num * seconds * 1000000 / den
  | some (⟨false, .infinite⟩, []) => some 1000000000000000
  | _ => none

def sleep : Tool := withOptions { tool := "sleep", letters := "" } fun given _ =>
  let faults := given.operands.filter fun text => (micros? text).isNone
  if given.operands.isEmpty then missingOperand "sleep"
  else if !faults.isEmpty then
    Program.writeText 2 (String.join (faults.map fun text => s!"sleep: invalid time interval '{text}'\n")) fun _ =>
      Program.writeText 2 (hint "sleep" ++ "\n") fun _ => .exit 1
  else Program.perform (.sleep ((given.operands.filterMap micros?).foldl (· + ·) 0)) fun _ => .exit 0

/-- Becomes the program of a name. If there is none, the tool goes on with the reason. -/
def become (arguments : List String) (environment : Environment) (next : FileError → Program) : Program :=
  match arguments with
  | [] => next .notFound
  | name :: _ => Shell.Lookup.become arguments environment .notFound (if name.isEmpty then [] else candidatePaths environment name) next

/-- The status of a tool that could not become the program it was asked for. -/
def launchStatus (fault : FileError) : Nat := if fault = .notFound then 127 else 126

def becomeOr (tool : String) (word : String → String) (arguments : List String) (environment : Environment) : Program :=
  become arguments environment fun fault =>
    refuseWith (launchStatus fault) tool (word (arguments.headD "") ++ s!": {fault.reason}")

def quoted (name : String) : String := s!"'{name}'"

/-- A definition, which has a name in front of an equals sign. -/
def assignment? (text : String) : Option (String × String) :=
  let name := text.toList.takeWhile (· != '=')
  if name.length < text.length then some (String.ofList name, String.ofList (text.toList.drop (name.length + 1))) else none

def assign (environment : Environment) (name value : String) : Environment :=
  if environment.any (·.1 == name) then environment.map fun entry => if entry.1 = name then (name, value) else entry
  else environment ++ [(name, value)]

def envTable : OptionTable :=
  { tool := "env", letters := "iu:0C:S:v", failure := 125, inOrder := true,
    names := [("ignore-environment", 'i'), ("unset", 'u'), ("null", '0'), ("chdir", 'C'), ("split-string", 'S'), ("debug", 'v')] }

def env : Tool := withOptions envTable fun given environment =>
  let split := (given.values 'S').flatMap fun text => (text.splitOn " ").filter (!·.isEmpty)
  let operands := split ++ given.operands
  let (isBare, operands) := if operands.head? = some "-" then (true, operands.tail) else (false, operands)
  let start : Environment := if isBare || given.has 'i' then [] else environment
  let start := start.filter fun (name, _) => !(given.values 'u').contains name
  let definitions := operands.takeWhile fun text => (assignment? text).isSome
  let command := operands.drop definitions.length
  let environment := (definitions.filterMap assignment?).foldl (fun environment (name, value) => assign environment name value) start
  match (given.values 'u').find? fun name => name.isEmpty || name.toList.contains '=' with
  | some name => refuseWith 125 "env" s!"cannot unset '{name}': Invalid argument"
  | none =>
    if command.isEmpty then
      if given.has 'C' then misuse 125 "env" "must specify command with --chdir (-C)"
      else
        let ending := if given.has '0' then "\x00" else "\n"
        writeText "env" (String.join (environment.map fun (name, value) => name ++ "=" ++ value ++ ending)) 0
    else if given.has '0' then misuse 125 "env" "cannot specify --null (-0) with command"
    else
      let launch : Program :=
        become command environment fun fault =>
          let name := command.headD ""
          let advice := if name.toList.contains ' ' && fault = .notFound then "\nenv: use -[v]S to pass options in shebang lines" else ""
          refuseWith (launchStatus fault) "env" s!"'{name}': {fault.reason}{advice}"
      match given.value? 'C' with
      | none => launch
      | some place =>
        .call (.enter ⟨place⟩) fun
          | .failed fault => refuseWith 125 "env" s!"cannot change directory to '{place}': {fault.reason}"
          | _ => launch

def printenv : Tool := withOptions { tool := "printenv", letters := "0", failure := 2, inOrder := true, names := [("null", '0')] }
  fun given environment =>
    let ending := if given.has '0' then "\x00" else "\n"
    let values := given.operands.filterMap fun name => (environment.find? (·.1 == name)).map (·.2)
    if given.operands.isEmpty then
      writeText "printenv" (String.join (environment.map fun (name, value) => name ++ "=" ++ value ++ ending)) 0
    else
      writeText "printenv" (String.join (values.map (· ++ ending))) (if values.length = given.operands.length then 0 else 1)

def nohup : Tool := withOptions { tool := "nohup", letters := "", failure := 125, inOrder := true } fun given environment =>
  if given.operands.isEmpty then misuse 125 "nohup" "missing operand"
  else
    Program.perform (.dispose Signal.hangUp .ignored) fun _ =>
      becomeOr "nohup" (fun name => s!"failed to run command '{name}'") given.operands environment

def niceTable : OptionTable := { tool := "nice", letters := "n:", failure := 125, inOrder := true, names := [("adjustment", 'n')] }

/-- Programs run one after the other here, so their ranks make no difference. -/
def nice : Tool := fun arguments =>
  let arguments :=
    match arguments with
    | first :: rest =>
      let digits := first.toList.drop 1
      if first.startsWith "-" && !digits.isEmpty && digits.all Char.isDigit then "-n" :: String.ofList digits :: rest else first :: rest
    | [] => []
  withOptions niceTable (fun given environment =>
    match given.value? 'n', given.operands with
    | none, [] => writeLines "nice" ["0"] 0
    | some _, [] => misuse 125 "nice" "a command must be given with an adjustment"
    | adjustment, command =>
      if adjustment.any fun text => (integer? text).isNone then
        refuseWith 125 "nice" ("invalid adjustment '" ++ adjustment.getD "" ++ "'")
      else becomeOr "nice" quoted command environment) arguments

def setsid : Tool := withOptions { tool := "setsid", letters := "cfw", inOrder := true, names := [("ctty", 'c'), ("fork", 'f'), ("wait", 'w')] }
  fun given environment =>
    if given.operands.isEmpty then misuse 1 "setsid" "no command specified"
    else
      let launch : Program := becomeOr "setsid" (fun name => s!"failed to execute {name}") given.operands environment
      if given.has 'f' then .fork launch fun _ => .exit 0 else launch

def stdbufTable : OptionTable :=
  { tool := "stdbuf", letters := "i:o:e:", failure := 125, inOrder := true, names := [("input", 'i'), ("output", 'o'), ("error", 'e')] }

def stdbuf : Tool := withOptions stdbufTable fun given environment =>
  if given.operands.isEmpty then misuse 125 "stdbuf" "missing operand"
  else if given.options.isEmpty then misuse 125 "stdbuf" "you must specify a buffering mode option"
  else becomeOr "stdbuf" (fun name => s!"failed to run command '{name}'") given.operands environment

/-- How a program is watched while it runs. -/
structure Watch where
  child : Nat
  /-- What it is sent when its time is up. -/
  signal : Nat := 15
  /-- How long after that it may go on. -/
  grace : Option Nat := none
  /-- Its status counts, even if its time was up. -/
  isHonest : Bool := false

namespace Watch

def alarm : Nat := 14

/-- Sends the watching process a signal after some time. -/
def setAlarm (micros : Nat) (next : Unit → Program) : Program :=
  if micros = 0 then next ()
  else
    .call .processNumber fun
      | .number watcher =>
        .fork
          (Program.performAll [.close 0, .close 1, .close 2, .sleep micros, .kill watcher alarm] fun _ => .exit 0)
          fun _ => next ()
      | _ => next ()

def finish (watch : Watch) (isLate : Bool) : Reply → Program
  | .status (.code code) => .exit (if isLate && !watch.isHonest then 124 else code)
  | .status (.signal signal) =>
    if isLate then .exit (if watch.isHonest || signal = Signal.kill then 128 + signal else 124)
    else Program.performAll [.dispose signal .standard, .kill 0 signal] fun _ => .exit (128 + signal)
  | _ => .exit 125

/-- Whoever asks for the end of the watching process asks for that of the watched one. -/
def run (watch : Watch) (fuel : Nat) (isLate : Bool) : Program :=
  match fuel with
  | 0 => .exit 125
  | fuel + 1 =>
    .call (.waitForNews watch.child) fun
      | .interrupted number =>
        .call .caughtSignals fun _ =>
          let isAlarm := number = alarm
          let signal := if !isAlarm then number else if isLate then Signal.kill else watch.signal
          Program.perform (.killAll watch.child signal) fun _ =>
            if signal = Signal.kill then Program.performAll [.wait watch.child, .kill 0 signal] fun _ => .exit 137
            else
              Program.perform (.kill watch.child Signal.resume) fun _ =>
                match if isAlarm then watch.grace else none with
                | some micros => setAlarm micros fun _ => run watch fuel true
                | none => run watch fuel (isLate || isAlarm)
      | reply => watch.finish isLate reply

end Watch

def timeoutTable : OptionTable :=
  { tool := "timeout", letters := "k:s:vfp", failure := 125, inOrder := true,
    names := [("kill-after", 'k'), ("signal", 's'), ("verbose", 'v'), ("foreground", 'f'), ("preserve-status", 'p')] }

def timeout : Tool := withOptions timeoutTable fun given environment =>
  let badSpan (text : String) : Program := misuse 125 "timeout" s!"invalid time interval '{text}'"
  let grace := given.value? 'k'
  match grace.bind micros?, given.operands with
  | _, [] => Program.writeText 2 (hint "timeout" ++ "\n") fun _ => .exit 125
  | _, [_] => Program.writeText 2 (hint "timeout" ++ "\n") fun _ => .exit 125
  | micros, span :: command =>
    if grace.isSome && micros.isNone then badSpan (grace.getD "")
    else
      match micros? span, Signal.parseLong? ((given.value? 's').getD "TERM") with
      | none, _ => badSpan span
      | _, none => misuse 125 "timeout" ("'" ++ (given.value? 's').getD "" ++ "': invalid signal")
      | some span, some signal =>
        .fork (becomeOr "timeout" (fun name => s!"failed to run command '{name}'") command environment) fun child =>
          Program.performAll ([Watch.alarm, 1, 2, 3, 15].map fun number => .dispose number .caught) fun _ =>
            Watch.setAlarm span fun _ =>
              Watch.run { child, signal, grace := micros, isHonest := given.has 'p' } 1000 false

/-- Sends signals from outside of a shell. -/
def kill : Tool := fun arguments _ =>
  let send (signal : Nat) (processes : List String) : Program :=
    let rec go : List String → Nat → Program
      | [], code => .exit code
      | text :: rest, code =>
        match decimal? text with
        | none => complain "kill" s!"failed to parse argument: '{text}'" fun _ => go rest 1
        | some process =>
          .call (.kill process signal) fun
            | .failed _ => complain "kill" s!"({process}): No such process" fun _ => go rest 1
            | _ => go rest code
    go processes 0
  match arguments with
  | "-l" :: text :: _ =>
    match (decimal? text).orElse fun _ => Signal.named? text with
    | some number => writeLines "kill" [if (decimal? text).isSome then Signal.name (number % 128) else toString number] 0
    | none => refuse "kill" s!"unknown signal name {text}"
  | "-s" :: name :: processes =>
    match Signal.parseLong? name with
    | some signal => send signal processes
    | none => refuse "kill" s!"unknown signal {name}"
  | first :: rest =>
    if first.startsWith "-" && first != "--" then
      match Signal.parseLong? (String.ofList (first.toList.drop 1)) with
      | some signal => send signal rest
      | none => refuse "kill" s!"unknown signal {first}"
    else send 15 (if first = "--" then rest else first :: rest)
  | [] => .exit 1

end BuildWatch.Toolbox
