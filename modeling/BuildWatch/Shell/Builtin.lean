import BuildWatch.Machine.Signal
import BuildWatch.Shell.Condition
import BuildWatch.Shell.Field
import BuildWatch.Shell.Format
import BuildWatch.Shell.State

/-! Commands that a shell carries out by itself, without evaluating further commands. -/

namespace BuildWatch.Shell

open Machine

abbrev Next : Type := State → Program

/-- A command of the shell: its arguments, and how to go on. -/
abbrev Builtin : Type := List String → State → Next → Program

namespace Builtin

def outputDescriptor : Nat := 1

def errorDescriptor : Nat := 2

def succeed : Builtin := fun _ state next => next (state.settle 0)

def fail : Builtin := fun _ state next => next (state.settle 1)

/-- Says something in front of which nobody is named. -/
def remark (status : Nat) (text : String) (state : State) (next : Next) : Program :=
  Program.writeText errorDescriptor (text ++ "\n") fun _ => next (state.settle status)

def complain (status : Nat) (text : String) (state : State) (next : Next) : Program :=
  Program.writeText errorDescriptor (state.complaint text) fun _ => next (state.settle status)

/-- A complaint behind which the command does not go on. -/
def refuse (text : String) (state : State) (next : Next) : Program :=
  complain 2 text { state with jump := some .giveUp } next

def write (bytes : List UInt8) (state : State) (next : Next) : Program :=
  if bytes.isEmpty then next (state.settle 0)
  else
    .call (.write outputDescriptor bytes) fun
      | .failed _ => complain 1 ((state.speaker.map (· ++ ": ")).getD "" ++ "I/O error") state next
      | _ => next (state.settle 0)

def writeText (text : String) (state : State) (next : Next) : Program := write (ByteText.toBytes text) state next

def writeLines (lines : List String) (state : State) (next : Next) : Program :=
  writeText (String.join (lines.map (· ++ "\n"))) state next

/-- What options there are among arguments: their letters with what belongs to them, and the other arguments. -/
structure Options where
  given : List (Char × String) := []
  operands : List String := []
  fault : Option String := none

namespace Options

def has (options : Options) (letter : Char) : Bool := options.given.any (·.1 == letter)

/-- The letters of one argument. One with a colon behind it in `allowed` takes the rest, or the next argument. -/
def readLetters (allowed : List Char) (rest : List String) : List Char → Options × List String
  | [] => ({}, rest)
  | letter :: letters =>
    match allowed.dropWhile (· != letter) with
    | [] => ({ fault := some s!"Illegal option -{letter}" }, rest)
    | _ :: ':' :: _ =>
      if letters.isEmpty then
        match rest with
        | argument :: rest => ({ given := [(letter, argument)] }, rest)
        | [] => ({ fault := some s!"No arg for -{letter} option" }, [])
      else ({ given := [(letter, String.ofList letters)] }, rest)
    | _ =>
      let (options, rest) := readLetters allowed rest letters
      ({ options with given := (letter, "") :: options.given }, rest)

def read (allowed : String) (fuel : Nat) (arguments : List String) : Options :=
  match fuel, arguments with
  | 0, arguments => { operands := arguments }
  | _, [] => {}
  | fuel + 1, argument :: rest =>
    match argument.toList with
    | ['-', '-'] => { operands := rest }
    | '-' :: letter :: letters =>
      match readLetters allowed.toList rest (letter :: letters) with
      | ({ fault := some fault, .. }, _) => { fault := some fault }
      | (options, rest) =>
        let later := read allowed fuel rest
        { later with given := options.given ++ later.given }
    | _ => { operands := argument :: rest }

end Options

/-- A command with options. -/
def withOptions (allowed : String) (body : Options → State → Next → Program) : Builtin := fun arguments state next =>
  let options := Options.read allowed (arguments.length + 1) arguments
  match options.fault with
  | some fault => refuse fault state next
  | none => body options state next

/-- A number that an argument has to be. -/
def number? (text : String) : Except String Nat :=
  match State.numeral? text with
  | some value => if value < Nat.pow 2 31 then .ok value else .error s!"Illegal number: {text}"
  | none => .error s!"Illegal number: {text}"

/-- Gives variables values one after the other, up to one that cannot have any. -/
def assignEach (values : List (String × String)) (state : State) (next : Next) : Program :=
  match values.find? fun (name, _) => !Source.isName name.toList || state.isFixed name with
  | none => next (state.assignAll values)
  | some (name, _) =>
    let state := state.assignAll (values.takeWhile fun (other, _) => other != name)
    refuse (if Source.isName name.toList then s!"{name}: is read only" else s!"{name}: bad variable name") state next

def echo : Builtin := fun arguments state next => write (echoLine arguments) state next

def printf : Builtin :=
  withOptions "" fun options state next =>
    match options.operands with
    | [] => refuse "usage: printf format [arg ...]" state next
    | format :: arguments =>
      let printing := formatted format arguments false
      let complaints := String.join (printing.faults.map fun fault => state.complaint fault.message)
      write printing.bytes state fun state =>
        Program.writeText errorDescriptor complaints fun _ =>
          match printing.failure with
          | some fault => refuse fault.message state next
          | none => next (if printing.faults.isEmpty then state else state.settle 1)

def test : Builtin := fun arguments state next =>
  match Condition.parse arguments with
  | .error fault => refuse fault state next
  | .ok condition => condition.evaluate fun value => next (state.settle (if value then 0 else 1))

def bracket : Builtin := fun arguments state next =>
  if arguments.getLast? = some "]" then test arguments.dropLast state next else refuse "missing ]" state next

/-- The path that a directory would have, seen from another one, by its names alone. -/
def logicalPath (base : String) (path : String) : String :=
  let pieces := (if path.startsWith "/" then [] else Path.segments base.toList) ++ Path.segments path.toList
  let names := pieces.foldl (fun (names : List (List Char)) piece =>
    if piece.isEmpty || piece == ['.'] then names
    else if piece == ['.', '.'] then names.dropLast
    else names ++ [piece]) []
  "/" ++ "/".intercalate (names.map String.ofList)

/-- Directories in which a relative one is looked for. -/
def changePlaces (state : State) (target : String) : List (Bool × String) :=
  let isPlain := target.startsWith "/" || target = "." || target = ".." || target.startsWith "./" || target.startsWith "../"
  if isPlain then [(false, target)]
  else
    (((state.value? "CDPATH").getD "").splitOn ":").map (fun directory =>
      if directory.isEmpty then (false, target) else (true, directory ++ "/" ++ target)) ++ [(false, target)]

/-- The first of several places that is a directory, or the last one. -/
def firstDirectory (standard : Bool × String) : List (Bool × String) → (Bool × String → Program) → Program
  | [], next => next standard
  | place :: rest, next =>
    .call (.inspect ⟨place.2⟩) fun
      | .kind .directory => next place
      | _ => firstDirectory standard rest next

def cd : Builtin :=
  withOptions "LP" fun options state next =>
    let given := options.operands.head?
    let goesBack := given = some "-"
    let target := if goesBack then state.valueOf "OLDPWD" else given.getD (state.valueOf "HOME")
    let target := if target.isEmpty then "." else target
    let isPhysical := ((options.given.getLast?).map (·.1)) == some 'P'
    firstDirectory (false, target) (changePlaces state target) fun (isElsewhere, place) =>
      let entered := if isPhysical then place else logicalPath (state.valueOf "PWD") place
      .call (.enter ⟨entered⟩) fun
        | .failed _ => refuse s!"can't cd to {given.getD target}" state next
        | _ =>
          .call .currentDirectory fun
            | .text directory =>
              let former := state.valueOf "PWD"
              let state := ((state.assign "OLDPWD" former).exportName "OLDPWD").assign "PWD" directory
              let state := state.exportName "PWD"
              if isElsewhere || goesBack then writeLines [directory] state next else next (state.settle 0)
            | _ => next (state.settle 0)

def pwd : Builtin :=
  withOptions "LP" fun _ state next =>
    .call .currentDirectory fun
      | .text place => writeLines [place] state next
      | _ => next (state.settle 1)

/-- Bytes up to a line feed, one by one so that nothing behind it is taken. Without the raw option a backslash
makes the next character an ordinary one, and joins lines. -/
def readLine (fuel : Nat) (raw : Bool) (held : List (Char × Bool)) (next : List (Char × Bool) → Bool → Program) :
    Program :=
  match fuel with
  | 0 => .exit 1
  | fuel + 1 =>
    .call (.read 0 1) fun
      | .bytes (byte :: _) =>
        if byte = 10 then next held.reverse true
        else if byte = 0 then readLine fuel raw held next
        else if byte = 92 && !raw then
          .call (.read 0 1) fun
            | .bytes (second :: _) =>
              if second = 10 then readLine fuel raw held next
              else readLine fuel raw ((Char.ofNat second.toNat, true) :: held) next
            | _ => next held.reverse false
        else readLine fuel raw ((Char.ofNat byte.toNat, false) :: held) next
      | _ => next held.reverse false

def read : Builtin :=
  withOptions "p:r" fun options state next =>
    match options.operands with
    | [] => refuse "arg count" state next
    | names =>
      readLine Program.rounds (options.has 'r') [] fun line complete =>
        let fields := inputFields state.separators names.length line
        let values := names.zip (fields ++ List.replicate names.length "")
        assignEach values (state.settle (if complete then 0 else 1)) next

def killAll (number : Nat) : List String → State → Next → Program
  | [], state, next => next state
  | target :: rest, state, next =>
    let missing (state : State) : Program :=
      complain 1 "No such process\n" state fun state => killAll number rest state next
    if target.startsWith "%" then missing state
    else
      match number? (if target.startsWith "-" then String.ofList (target.toList.drop 1) else target) with
      | .error fault => refuse fault state next
      | .ok process =>
        .call (.kill process number) fun
          | .failed _ => missing state
          | _ => killAll number rest state next

def killUsage : String := "Usage: kill [-s sigspec | -signum | -sigspec] [pid | job]... or\nkill -l [exitstatus]"

def listSignals (state : State) (operands : List String) (next : Next) : Program :=
  match operands with
  | [] => writeLines ("0" :: (List.range (Signal.limit - 1)).map fun index => Signal.name (index + 1)) state next
  | text :: _ =>
    match number? text with
    | .error fault => refuse fault state next
    | .ok status =>
      let number := if 128 < status then status - 128 else status
      if 0 < number && number < Signal.limit then writeLines [Signal.name number] state next
      else refuse s!"invalid signal number or exit status: {text}" state next

def kill : Builtin := fun arguments state next =>
  let send (number : Nat) (targets : List String) : Program :=
    if targets.isEmpty then refuse killUsage state next else killAll number targets (state.settle 0) next
  match arguments with
  | [] => refuse killUsage state next
  | first :: rest =>
    let short := if first.startsWith "-" then Signal.parse? (String.ofList (first.toList.drop 1)) else none
    match short with
    | some number => send number rest
    | none =>
      withOptions "ls:" (fun options state next =>
        if options.has 'l' then listSignals state options.operands next
        else
          match options.given.reverse.find? (·.1 == 's') with
          | none => send 15 options.operands
          | some (_, name) =>
            match Signal.parse? name with
            | some number => send number options.operands
            | none => refuse s!"invalid signal number or name: {name}" state next) arguments state next

/-- The status of a process as a shell counts it. -/
def statusOf : Reply → Nat
  | .status (.code value) => value
  | .status (.signal number) => 128 + number
  | .interrupted number => 128 + number
  | _ => 127

/-- Tells of a process that a signal has ended. -/
def mourn (reply : Reply) (next : Unit → Program) : Program :=
  match reply with
  | .status (.signal number) => Program.writeText errorDescriptor (((Signal.epitaph? number).map (· ++ "\n")).getD "") next
  | _ => next ()

/-- A job that has ended. -/
def finishJob (process status : Nat) (state : State) : State :=
  { state with jobs := state.jobs.map fun job => if job.process = process then { job with status := some status } else job }

/-- Learns which jobs have ended. -/
def pollJobs : List Job → State → Next → Program
  | [], state, next => next state
  | job :: rest, state, next =>
    if job.status.isSome then pollJobs rest state next
    else
      .call (.poll job.process) fun
        | .status status => pollJobs rest (finishJob job.process (statusOf (.status status)) state) next
        | _ => pollJobs rest state next

/-- Waits for a process whose status becomes that of the shell. Jobs that have ended meanwhile are noticed. -/
def await (process : Nat) (state : State) (next : Next) : Program :=
  .call (.wait process) fun reply =>
    mourn reply fun _ => pollJobs state.jobs (state.settle (statusOf reply)) next

/-- Waits for several processes, of which the last one gives its status. -/
def waitAll : List Nat → State → Next → Program
  | [], state, next => next state
  | process :: rest, state, next => await process state fun state => waitAll rest state next

/-- Waits for processes, of which the last one counts, until a signal is to be answered. -/
def waitForNews (tells : Bool) : List Nat → Reply → (Reply → Program) → Program
  | [], reply, next => next reply
  | process :: rest, _, next =>
    .call (.waitForNews process) fun
      | .interrupted signal => next (.interrupted signal)
      | reply =>
        if tells then mourn reply fun _ => waitForNews tells rest reply next else waitForNews tells rest reply next

/-- Waits for jobs until a signal is to be answered, and perhaps tells how they have ended. -/
def waitForJobs (tells : Bool) : List Job → State → Next → Program
  | [], state, next => next state
  | job :: rest, state, next =>
    let go (status : Nat) (state : State) : Program :=
      let jobs := state.jobs.map fun other => if other.process = job.process then { other with waited := true } else other
      waitForJobs tells rest ({ state with jobs }.settle status) next
    match (state.jobs.find? (·.process == job.process)).bind (·.status) with
    | some status => go status state
    | none =>
      waitForNews tells (job.earlier ++ [job.process]) (.status (.code 0)) fun
        | .interrupted signal => next (state.settle (128 + signal))
        | reply => go (statusOf reply) (finishJob job.process (statusOf reply) state)

/-- The job that a text like `%1` or a process number names. -/
def jobOf? (state : State) (text : String) : Except String (Option Job) :=
  match text.toList with
  | '%' :: name =>
    let found :=
      match name with
      | [] => state.jobs.head?
      | ['%'] => state.jobs.head?
      | ['+'] => state.jobs.head?
      | ['-'] => state.jobs[1]?
      | digits => (State.numeral? (String.ofList digits)).bind fun number => state.jobs.find? (·.number == number)
    match found with
    | some job => .ok (some job)
    | none => .error s!"No such job: {text}"
  | _ => (number? text).map fun process => state.jobs.find? (·.process == process)

def wait : Builtin :=
  withOptions "" fun options state next =>
    match options.operands with
    | [] =>
      waitForJobs false state.jobs.reverse state fun after =>
        let interrupted := after.jobs.any fun job => job.status.isNone
        next (if interrupted then after else after.settle 0)
    | operands =>
      match operands.mapM (jobOf? state) with
      | .error fault => refuse fault state next
      | .ok jobs =>
        match jobs.getLast? with
        | some none => waitForJobs true (jobs.filterMap id) state fun state => next (state.settle 127)
        | _ => waitForJobs true (jobs.filterMap id) (state.settle 127) next

def jobLine (mark : String) (withProcess : Bool) (job : Job) : String :=
  let status :=
    match job.status with
    | none => "Running"
    | some 0 => "Done"
    | some status =>
      if 128 < status then (Signal.epitaph? (status - 128)).getD (toString status) else s!"Done({status})"
  let text := s!"[{job.number}] {mark} " ++ (if withProcess then s!"{job.process} " else "") ++ status
  text ++ String.ofList (List.replicate (33 - text.length) ' ') ++ String.join (job.earlier.map fun _ => " | ")

/-- Lines about jobs, latest first. Those that have ended are forgotten on the way. -/
def jobLines (line : String → Job → String) : List Job → List String
  | [] => []
  | job :: rest => line "+" job :: if job.status.isNone then others rest else jobLines line rest
where
  others : List Job → List String
    | [] => []
    | job :: rest => line "-" job :: if job.status.isNone then rest.map (line " ") else others rest

def jobs : Builtin :=
  withOptions "lp" fun options state next =>
    pollJobs state.jobs state fun state =>
      let line (mark : String) (job : Job) : String :=
        if options.has 'p' then toString job.process else jobLine mark (options.has 'l') job
      writeLines (jobLines line state.jobs) state fun after =>
        next { after with jobs := after.jobs.filter (·.status.isNone) }

def resume : Builtin := fun arguments state next =>
  match jobOf? state (arguments.headD "%") with
  | .ok (some _) => refuse ("job " ++ arguments.headD "(null)" ++ " not created under job control") state next
  | .ok none => refuse ("No such job: " ++ arguments.headD "%") state next
  | .error fault => refuse (if arguments.isEmpty then "No current job" else fault) state next

/-- A name, and the value behind an equals sign. -/
def definition (text : String) : String × Option String :=
  match text.toList.dropWhile (· != '=') with
  | [] => (text, none)
  | _ :: value => (String.ofList (text.toList.takeWhile (· != '=')), some (String.ofList value))

/-- Lines that would set the variables of a kind again. -/
def listing (verb : String) (wanted : Variable → Bool) (state : State) : List String :=
  ((state.bindings.filter fun (_, entry) => wanted entry).mergeSort fun a b => a.1 ≤ b.1).map fun (name, entry) =>
    verb ++ name ++
      match entry.value with
      | some value => "=" ++ State.inQuotes value
      | none => ""

/-- Changes variables one after the other, and gives them values first where values are given. -/
def changeEach (change : String → State → State) : List String → State → Next → Program
  | [], state, next => next (state.settle 0)
  | text :: rest, state, next =>
    match definition text with
    | (name, value) =>
      if !Source.isName name.toList then refuse s!"{name}: bad variable name" state next
      else if value.isSome && state.isFixed name then refuse s!"{name}: is read only" state next
      else
        let state := (value.map fun value => state.assign name value).getD state
        changeEach change rest (change name state) next

def withNames (verb : String) (wanted : Variable → Bool) (change : String → State → State) : Builtin :=
  withOptions "p" fun options state next =>
    if options.operands.isEmpty || options.has 'p' then writeLines (listing (verb ++ " ") wanted state) state next
    else changeEach change options.operands state next

def exportNames : Builtin := withNames "export" (·.exported) State.exportName

def fixNames : Builtin := withNames "readonly" (·.fixed) State.fixName

def hide (name : String) (state : State) : State :=
  match state.scopes with
  | [] => state
  | scope :: outer =>
    if scope.hidden.any (·.1 == name) then state
    else { state with scopes := { scope with hidden := (name, state.binding? name) :: scope.hidden } :: outer }

def hideOptions (state : State) : State :=
  match state.scopes with
  | [] => state
  | scope :: outer => { state with scopes := { scope with options := some (scope.options.getD state.options) } :: outer }

/-- Variables that end with the running function. -/
def localNames : Builtin := fun arguments state next =>
  if state.scopes.isEmpty then refuse "not in a function" state next else go arguments state next
where
  go : List String → State → Next → Program
    | [], state, next => next (state.settle 0)
    | "-" :: rest, state, next => go rest (hideOptions state) next
    | text :: rest, state, next =>
      match definition text with
      | (name, value) =>
        if !Source.isName name.toList then refuse s!"{name}: bad variable name" state next
        else if value.isSome && state.isFixed name then refuse s!"{name}: is read only" state next
        else
          let state := hide name state
          go rest ((value.map fun value => state.assign name value).getD state) next

def unsetNames : Builtin :=
  withOptions "vf" fun options state next =>
    match options.operands.find? fun name => !options.has 'f' && (state.isFixed name || !Source.isName name.toList) with
    | some name =>
      refuse (if Source.isName name.toList then s!"{name}: is read only" else s!"{name}: bad variable name") state next
    | none =>
      let unset (state : State) (name : String) : State :=
        if options.has 'f' then { state with functions := state.functions.filter (·.1 != name) } else state.unset name
      next ((options.operands.foldl unset state).settle 0)

def shift : Builtin := fun arguments state next =>
  match number? (arguments.headD "1") with
  | .error fault => refuse fault state next
  | .ok count =>
    if state.arguments.length < count then refuse "can't shift that many" state next
    else next ((state.withArguments (state.arguments.drop count)).settle 0)

/-- Takes options from the front of a list of arguments; answers also what is left behind them, if anything is
said about that, and what is to be shown. -/
structure Switching where
  state : State
  arguments : Option (List String) := none
  shown : List String := []
  fault : Option String := none

def namedOption? (name : String) : Option (Option Char) := (State.optionNames.find? (·.1 == name)).map (·.2)

def isOnNamed (state : State) : Option Char → Bool
  | some letter => state.isOn letter
  | none => false

def optionTable (state : State) : List String :=
  "Current option settings" :: State.optionNames.map fun (name, letter) =>
    name ++ String.ofList (List.replicate (16 - name.length) ' ') ++ (if isOnNamed state letter then "on" else "off")

def optionScript (state : State) : List String :=
  State.optionNames.map fun (name, letter) => (if isOnNamed state letter then "set -o " else "set +o ") ++ name

/-- Which letters an argument has behind its sign, each switched on or off. -/
def switchLetters (value : Bool) : List Char → State → State × Bool × Option String
  | [], state => (state, false, none)
  | letter :: letters, state =>
    if letter = 'o' then
      let (state, _, fault) := switchLetters value letters state
      (state, true, fault)
    else if (State.optionNames.filterMap (·.2)).contains letter then switchLetters value letters (state.switch letter value)
    else (state, false, some ((if value then "Illegal option -" else "Illegal option +") ++ String.singleton letter))

def switchAll (fuel : Nat) (state : State) (arguments : List String) : Switching :=
  match fuel, arguments with
  | 0, _ => { state }
  | _, [] => { state }
  | fuel + 1, argument :: rest =>
    match argument.toList with
    | ['-', '-'] => { state, arguments := some rest }
    | ['-'] =>
      let state := (state.switch 'x' false).switch 'v' false
      if rest.isEmpty then { state } else { state, arguments := some rest }
    | sign :: letter :: letters =>
      if sign != '-' && sign != '+' then { state, arguments := some (argument :: rest) }
      else
        match switchLetters (sign = '-') (letter :: letters) state, rest with
        | (state, _, some fault), _ => { state, fault := some fault }
        | (state, false, none), rest => switchAll fuel state rest
        | (state, true, none), [] => { state, shown := if sign = '-' then optionTable state else optionScript state }
        | (state, true, none), name :: rest =>
          match namedOption? name with
          | none => { state, fault := some s!"Illegal option {String.singleton sign}o {name}" }
          | some (some letter) => switchAll fuel (state.switch letter (sign = '-')) rest
          | some none => switchAll fuel state rest
    | _ => { state, arguments := some (argument :: rest) }

def set : Builtin := fun arguments state next =>
  if arguments.isEmpty then writeLines (listing "" (·.value.isSome) state) state next
  else
    let switching := switchAll (arguments.length + 1) state arguments
    match switching.fault with
    | some fault => refuse fault switching.state next
    | none =>
      writeLines switching.shown switching.state fun state =>
        next (((switching.arguments.map state.withArguments).getD state).settle 0)

def trapName? (text : String) : Option String :=
  if text = "0" || text.toUpper = "EXIT" then some "EXIT" else (Signal.parse? text).map Signal.name

def disposition (action : Option String) : Disposition :=
  match action with
  | none => .standard
  | some text => if text.isEmpty then .ignored else .caught

/-- Sets the same action for each of the named signals. -/
def setTraps (action : Option String) : List String → State → Next → Program
  | [], state, next => next (state.settle 0)
  | text :: rest, state, next =>
    match trapName? text with
    | none => remark 1 s!"trap: {text}: bad trap" state next
    | some name =>
      let others := state.traps.filter (·.1 != name)
      let state := { state with traps := (action.toList.map fun action => (name, action)) ++ others }
      match if name = "EXIT" then none else Signal.parse? name with
      | none => setTraps action rest state next
      | some number =>
        Program.perform (.dispose number (disposition action)) fun _ => setTraps action rest state next

def trapNumber (name : String) : Nat := if name = "EXIT" then 0 else (Signal.parse? name).getD 0

def trap : Builtin :=
  withOptions "" fun options state next =>
    match options.operands with
    | [] =>
      let traps := state.traps.mergeSort fun a b => trapNumber a.1 ≤ trapNumber b.1
      writeLines (traps.map fun (name, action) => s!"trap -- {State.inQuotes action} {name}") state next
    | [name] => setTraps none [name] state next
    | "-" :: names => setTraps none names state next
    | action :: names =>
      if (State.numeral? action).any (· < Signal.limit) then setTraps none (action :: names) state next
      else setTraps (some action) names state next

/-- One more option from the arguments. -/
def scanOption (letters : List Char) (arguments : List String) (state : State) : State × Char × Option String × Option String :=
  let position := state.scan.position
  let held : List Char :=
    match state.scan.offset, (if position ≤ 1 then none else arguments[position - 2]?) with
    | some offset, some word => word.toList.drop offset
    | _, _ => []
  let (position, held) : Nat × List Char :=
    match held with
    | [] =>
      match (arguments[position - 1]?).map String.toList with
      | some ('-' :: c :: rest) => (position + 1, c :: rest)
      | _ => (position, [])
    | held => (position, held)
  let goOn (position : Nat) (rest : List Char) : State :=
    let offset := if rest.isEmpty then none else (arguments[position - 2]?).map fun word => word.length - rest.length
    { state with scan := { position, offset } }
  let isQuiet := letters.head? = some ':'
  match held with
  | [] => (goOn position [], '?', none, none)
  | ['-'] => if (arguments[position - 2]?) == some "--" then (goOn position [], '?', none, none) else unknown position [] '-' isQuiet goOn
  | letter :: rest =>
    match if letter = ':' then [] else letters.dropWhile (· != letter) with
    | [] => unknown position rest letter isQuiet goOn
    | _ :: ':' :: _ =>
      match rest, arguments[position - 1]? with
      | [], none =>
        if isQuiet then (goOn position [], ':', some (String.singleton letter), none)
        else (goOn position [], '?', none, some s!"No arg for -{letter} option")
      | [], some argument => (goOn (position + 1) [], letter, some argument, none)
      | rest, _ => (goOn position [], letter, some (String.ofList rest), none)
    | _ => (goOn position rest, letter, some "", none)
where
  unknown (position : Nat) (rest : List Char) (letter : Char) (isQuiet : Bool) (goOn : Nat → List Char → State) :
      State × Char × Option String × Option String :=
    if isQuiet then (goOn position rest, '?', some (String.singleton letter), none)
    else (goOn position rest, '?', none, some s!"Illegal option -{letter}")

def isScanDone (arguments : List String) (state : State) : Bool :=
  let position := state.scan.position
  let isInside :=
    match state.scan.offset, (if position ≤ 1 then none else arguments[position - 2]?) with
    | some offset, some word => offset < word.length
    | _, _ => false
  !isInside &&
    match arguments[position - 1]? with
    | none => true
    | some word => !word.startsWith "-" || word = "-" || word = "--"

def getopts : Builtin := fun arguments state next =>
  match arguments with
  | letters :: name :: given =>
    let given := if given.isEmpty then state.arguments else given
    let isDone := isScanDone given state
    let (after, letter, value, fault) := scanOption letters.toList given state
    let scan := if isDone && (given[state.scan.position - 1]?) == some "--" then { state.scan with position := state.scan.position + 1, offset := none } else after.scan
    let argument (state : State) : State :=
      if isDone then state
      else
        match value with
        | some value => state.assign "OPTARG" value
        | none => state.unset "OPTARG"
    Program.writeText errorDescriptor ((fault.map (· ++ "\n")).getD "") fun _ =>
      let state := { (argument state).assign "OPTIND" (toString scan.position) with scan }
      assignEach [(name, String.singleton letter)] (state.settle (if isDone then 1 else 0)) next
  | _ => refuse "Usage: getopts optstring var [arg...]" state next

def aliasLine (entry : String × String) : String := s!"{entry.1}={State.inQuotes entry.2}"

def setAlias : Builtin := fun arguments state next =>
  if arguments.isEmpty then writeLines ((State.byHeap state.aliases).map aliasLine) state next
  else go arguments (state.settle 0) next
where
  go : List String → State → Next → Program
    | [], state, next => next state
    | text :: rest, state, next =>
      match definition text with
      | (name, some value) =>
        let aliases :=
          if (state.alias? name).isSome then state.aliases.map fun entry => if entry.1 = name then (name, value) else entry
          else state.aliases ++ [(name, value)]
        go rest { state with aliases } next
      | (name, none) =>
        match state.alias? name with
        | some value =>
          let status := state.status
          writeLines [aliasLine (name, value)] state fun state => go rest (state.settle (max status state.status)) next
        | none => remark 1 s!"alias: {name} not found" state fun state => go rest state next

def unalias : Builtin :=
  withOptions "a" fun options state next =>
    if options.has 'a' then next ({ state with aliases := [] }.settle 0)
    else
      let missing := options.operands.filter fun name => (state.alias? name).isNone
      let aliases := state.aliases.filter fun (name, _) => !options.operands.contains name
      Program.writeText errorDescriptor (String.join (missing.map fun name => s!"unalias: {name} not found\n")) fun _ =>
        next ({ state with aliases }.settle (if missing.isEmpty then 0 else 1))

def times : Builtin := fun _ state next =>
  writeLines ["0m0.000000s 0m0.000000s", "0m0.000000s 0m0.000000s"] state next

def ulimit : Builtin :=
  withOptions "HSatfdsmcnpvlwri" fun options state next =>
    if options.operands.isEmpty then writeLines ["unlimited"] state next else next (state.settle 0)

/-- Permissions as letters, from the lowest bits of a number. -/
def permissions (bits : Nat) : String :=
  String.ofList ([(4, 'r'), (2, 'w'), (1, 'x')].filterMap fun (bit, letter) => if bits / bit % 2 = 1 then some letter else none)

/-- What a symbolic change such as `u=rwx,g+x` makes of permissions. -/
def changePermissions? (text : String) (granted : Nat) : Option Nat :=
  (text.splitOn ",").foldlM (fun granted clause => step granted clause.toList) granted
where
  step (granted : Nat) (clause : List Char) : Option Nat :=
    let who := clause.takeWhile fun c => "ugoa".toList.contains c
    match clause.drop who.length with
    | sign :: letters =>
      if !"+-=".toList.contains sign || letters.any fun c => !"rwxXst".toList.contains c then none
      else
        let bits := (if letters.contains 'r' then 4 else 0) + (if letters.contains 'w' then 2 else 0) + (if letters.contains 'x' then 1 else 0)
        let concerns (c : Char) : Bool := who.isEmpty || who.contains 'a' || who.contains c
        let part (c : Char) (held : Nat) : Nat :=
          if !concerns c then held
          else if sign = '=' then bits
          else if sign = '+' then held ||| bits
          else held - (held &&& bits)
        some (part 'u' (granted / 64 % 8) * 64 + part 'g' (granted / 8 % 8) * 8 + part 'o' (granted % 8))
    | [] => none

def umask : Builtin :=
  withOptions "S" fun options state next =>
    match options.operands with
    | [] =>
      let granted := 511 - state.mask
      if options.has 'S' then
        writeLines [s!"u={permissions (granted / 64 % 8)},g={permissions (granted / 8 % 8)},o={permissions (granted % 8)}"] state next
      else
        let digits := Nat.toDigits 8 state.mask
        writeLines [String.ofList (List.replicate (4 - digits.length) '0' ++ digits)] state next
    | text :: _ =>
      if (text.toList.head?).any Char.isDigit then
        if text.toList.all Ascii.isOctal then next ({ state with mask := Ascii.number 8 text.toList % 512 }.settle 0)
        else refuse s!"Illegal number: {text}" state next
      else
        match changePermissions? text (511 - state.mask) with
        | some granted => next ({ state with mask := 511 - granted }.settle 0)
        | none => refuse s!"Illegal mode: {text}" state next

/-- Commands that are always looked up first, and whose assignments stay. -/
def special? : String → Option Builtin
  | ":" => some succeed
  | "export" => some exportNames
  | "local" => some localNames
  | "readonly" => some fixNames
  | "set" => some set
  | "shift" => some shift
  | "times" => some times
  | "trap" => some trap
  | "unset" => some unsetNames
  | _ => none

def regular? : String → Option Builtin
  | "true" => some succeed
  | "false" => some fail
  | "echo" => some echo
  | "printf" => some printf
  | "test" => some test
  | "[" => some bracket
  | "cd" => some cd
  | "chdir" => some cd
  | "pwd" => some pwd
  | "read" => some read
  | "kill" => some kill
  | "wait" => some wait
  | "jobs" => some jobs
  | "fg" => some resume
  | "bg" => some resume
  | "getopts" => some getopts
  | "alias" => some setAlias
  | "unalias" => some unalias
  | "umask" => some umask
  | "ulimit" => some ulimit
  | _ => none

end Builtin

end BuildWatch.Shell
