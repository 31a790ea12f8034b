import BuildWatch.Diagnostic
import BuildWatch.Settings

/-! The command line: which way the program runs, and with what options. Whatever does not fit the grammar
is a usage error. -/

namespace BuildWatch.CommandLine

/-- The options that a watch and a terminal share. -/
structure SettingsOptions where
  project : Option Path := none
  overrides : SettingsLayer := {}
  deriving DecidableEq, Inhabited

inductive Invocation where
  | watch (options : SettingsOptions)
  | task (options : SettingsOptions)
  | worker (tool : String)
  | check (file root : Path) (severity : Severity)
  | help
  deriving DecidableEq, Inhabited

/-- An option that an invocation knows, under a short and a long name. -/
structure OptionSpec where
  short : Option Char
  long : String
  takesValue : Bool
  /-- An empty value is refused. -/
  needsText : Bool := false

/-- What an argument list holds, in order. -/
inductive Item where
  | value (option value : String)
  | flag (option : String)
  | positional (text : String)
  | help

/-- Where the value of an option comes from: the same argument, or the next one. A value of its own may
not look like an option. -/
def takeValue (spec : OptionSpec) (inline : Option String) (rest : List String) : Option (String × List String) :=
  let accept (value : String) (rest : List String) : Option (String × List String) :=
    if spec.needsText && value.isEmpty then none else some (value, rest)
  match inline, rest with
  | some value, rest => accept value rest
  | none, value :: rest =>
    if value.length > 1 && value.toList.head? == some '-' then none else accept value rest
  | none, [] => none

def longOption (specs : List OptionSpec) (text : List Char) (rest : List String) : Option (Item × List String) := do
  let name := String.ofList (text.takeWhile (· != '='))
  let inline :=
    match text.dropWhile (· != '=') with
    | _ :: value => some (String.ofList value)
    | [] => none
  if name = "help" && inline.isNone then return (.help, rest)
  let spec ← specs.find? (·.long == name)
  if spec.takesValue then
    let (value, rest) ← takeValue spec inline rest
    return (.value spec.long value, rest)
  else if inline.isSome then none
  else return (.flag spec.long, rest)

/-- Letters behind one dash. The first one that takes a value takes all that follows it. -/
def shortOptions (specs : List OptionSpec) : List Char → List String → Option (List Item × List String)
  | [], rest => some ([], rest)
  | letter :: more, rest => do
    if letter = 'h' then return ([.help], rest)
    let spec ← specs.find? (·.short == some letter)
    if spec.takesValue then
      let inline :=
        match more with
        | [] => none
        | '=' :: value => some (String.ofList value)
        | value => some (String.ofList value)
      let (value, rest) ← takeValue spec inline rest
      return ([.value spec.long value], rest)
    else
      let (items, rest) ← shortOptions specs more rest
      return (.flag spec.long :: items, rest)

/-- Reads arguments up to the first help request, which makes whatever follows it meaningless. -/
def items (specs : List OptionSpec) (fuel : Nat) (arguments : List String) : Option (List Item) :=
  match fuel, arguments with
  | 0, _ => some []
  | _, [] => some []
  | fuel + 1, argument :: rest =>
    match argument.toList with
    | ['-', '-'] => some (rest.map .positional)
    | '-' :: '-' :: text => do
      let (item, rest) ← longOption specs text rest
      match item with
      | .help => return [.help]
      | item => return item :: (← items specs fuel rest)
    | '-' :: letter :: letters => do
      let (read, rest) ← shortOptions specs (letter :: letters) rest
      if read.any (fun item => item matches .help) then return [.help]
      return read ++ (← items specs fuel rest)
    | _ => do return .positional argument :: (← items specs fuel rest)

def settingsSpecs : List OptionSpec :=
  [⟨some 'p', "project", true, true⟩, ⟨some 'd', "execution-directory", true, false⟩,
    ⟨some 'c', "config-file", true, false⟩, ⟨some 'b', "build-tool", true, false⟩,
    ⟨none, "no-autostart", false, false⟩]

def workerSpecs : List OptionSpec := [⟨none, "tool", true, false⟩]

def checkSpecs : List OptionSpec := [⟨some 'r', "root", true, true⟩, ⟨none, "warning", false, false⟩]

def optionNames (items : List Item) : List String :=
  items.filterMap fun
    | .value option _ => some option
    | .flag option => some option
    | _ => none

def positionals (items : List Item) : List String :=
  items.filterMap fun
    | .positional text => some text
    | _ => none

def value? (option : String) (items : List Item) : Option String :=
  items.findSome? fun
    | .value name value => if name = option then some value else none
    | _ => none

def hasFlag (option : String) (items : List Item) : Bool := (optionNames items).contains option

/-- The items of a subcommand; no option may be given twice. -/
def itemsOnce (specs : List OptionSpec) (arguments : List String) : Option (List Item) := do
  let read ← items specs (arguments.length + 1) arguments
  if (optionNames read).Nodup then some read else none

def asksHelp (items : List Item) : Bool := items.any fun item => item matches .help

def settingsOptions (items : List Item) : SettingsOptions where
  project := (value? "project" items).map Path.mk
  overrides :=
    { executionDirectory := value? "execution-directory" items
      configFile := value? "config-file" items
      startOnActivation := if hasFlag "no-autostart" items then some false else none
      buildTool := value? "build-tool" items }

def withSettings (invocation : SettingsOptions → Invocation) (arguments : List String) : Option Invocation := do
  let read ← itemsOnce settingsSpecs arguments
  if !(positionals read).isEmpty then none
  else if asksHelp read then return .help
  else return invocation (settingsOptions read)

def parseWorker (arguments : List String) : Option Invocation := do
  let read ← itemsOnce workerSpecs arguments
  if !(positionals read).isEmpty then none
  else if asksHelp read then return .help
  else return .worker ((value? "tool" read).getD Settings.defaultBuildTool)

def parseCheck (arguments : List String) : Option Invocation := do
  let read ← itemsOnce checkSpecs arguments
  let files := positionals read
  if 1 < files.length || files.contains "" then none
  else if asksHelp read then return .help
  else
    let file ← files.head?
    return .check ⟨file⟩ ⟨(value? "root" read).getD "."⟩ (if hasFlag "warning" read then .warning else .error)

/-- The invocation that arguments stand for; `none` for a usage error. An error in front of a help request wins. -/
def parse? (arguments : List String) : Option Invocation :=
  match arguments with
  | "watch" :: rest => withSettings .watch rest
  | "task" :: rest => withSettings .task rest
  | "worker" :: rest => parseWorker rest
  | "check" :: rest => parseCheck rest
  | "help" :: rest =>
    match rest with
    | [] => some .help
    | [name] => if ["watch", "task", "worker", "check", "help"].contains name then some .help else none
    | _ => none
  | "-h" :: _ | "--help" :: _ => some .help
  | _ => none

def usageExit : Nat := 2

def usage : String := "Usage: watch-runner <watch|task|check|help> [OPTIONS]\n"

end BuildWatch.CommandLine
