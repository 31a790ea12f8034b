import BuildWatch.Toolbox.Awk.Memory

/-! Carrying out the statements of a script. -/

namespace BuildWatch.Toolbox.Awk

open Machine

/-- Where it goes on when a statement does not go on to the next one. -/
structure Exits where
  leave : Nat → Memory → Program
  nextRecord : Memory → Program
  nextFile : Memory → Program
  answer : Value → Memory → Program
  stop : Memory → Program
  again : Memory → Program

/-- A step of a script: it may change what is remembered, do something, and have a result. -/
def Step (α : Type) : Type := Exits → Memory → (α → Memory → Program) → Program

namespace Step

instance : Monad Step where
  pure value := fun _ memory next => next value memory
  bind step further := fun exits memory next => step exits memory fun value memory => further value exits memory next

def get : Step Memory := fun _ memory next => next memory memory

def change (change : Memory → Memory) : Step Unit := fun _ memory next => next () (change memory)

def use {α : Type} (take : Memory → α × Memory) : Step α := fun _ memory next =>
  let (value, memory) := take memory
  next value memory

def perform (request : Call) : Step Reply := fun _ memory next => .call request fun reply => next reply memory

end Step

/-- What a script is carried out with. -/
structure Setting where
  script : Script
  environment : Environment := []
  tool : String := "awk"

open Step

/-- Gives everything away that has been held back. -/
def flushAll : Step Unit := fun _ memory next =>
  let rec go : List Outflow → List Outflow → Memory → Program
    | [], flushed, memory => next () { memory with outflows := flushed.reverse }
    | outflow :: rest, flushed, memory => outflow.flush fun outflow => go rest (outflow :: flushed) memory
  memory.outlet.flush fun outlet => go memory.outflows [] { memory with outlet }

/-- Ends with a complaint about what a script has done. -/
def runFault {α : Type} (setting : Setting) (text : String) : Step α := fun _ memory _ =>
  let file := memory.text (memory.global "FILENAME")
  let count (name : String) : String := memory.text (.number (memory.global name).toNumber)
  let place := "FILENAME=\"" ++ file ++ "\" FNR=" ++ count "FNR" ++ " NR=" ++ count "NR"
  memory.outlet.flush fun _ =>
    Program.writeText 2 (setting.tool ++ ": run time error: " ++ text ++ "\n\t" ++ place ++ "\n") fun _ => .exit 2

def cannotOpen (setting : Setting) (path : String) (fault : FileError) : Program :=
  Program.writeText 2 (setting.tool ++ ": cannot open \"" ++ path ++ "\" (" ++ fault.reason ++ ")\n") fun _ => .exit 2

def write (text : String) : Step Unit := fun _ memory next =>
  memory.outlet.put text fun outlet => next () { memory with outlet }

/-- Writes to a file or to a command, which is opened the first time. -/
def writeTo (setting : Setting) (channel : Channel) (name text : String) : Step Unit := fun _ memory next =>
  if channel != .command && (name = "/dev/stdout" || name = "-") then memory.outlet.put text fun outlet => next () { memory with outlet }
  else if channel != .command && name = "/dev/stderr" then Program.writeText 2 text fun _ => next () memory
  else
    let put (outflow : Outflow) (memory : Memory) : Program :=
      if channel = .command then
        let replace (other : Outflow) : Outflow := if other.name = name then { other with held := text :: other.held } else other
        next () { memory with outflows := memory.outflows.map replace }
      else Program.writeText outflow.descriptor text fun _ => next () memory
    match memory.outflows.find? (·.name == name) with
    | some outflow => put outflow memory
    | none =>
      let add (outflow : Outflow) (memory : Memory) : Program := put outflow { memory with outflows := outflow :: memory.outflows }
      match channel with
      | .command =>
        memory.outlet.flush fun outlet =>
          startCommand name setting.environment true fun process descriptor =>
            add { name, channel, descriptor, process := some process } { memory with outlet }
      | channel =>
        let descriptor := memory.nextDescriptor
        .call (.openFile descriptor ⟨name⟩ (if channel = .appended then .append else .write)) fun
          | .failed fault => memory.outlet.flush fun _ => cannotOpen setting name fault
          | _ => add { name, channel, descriptor } { memory with nextDescriptor := descriptor + 1 }

def recordEnd (memory : Memory) : RecordEnd := .ofText (memory.text (memory.global "RS"))

def isName (text : String) : Bool :=
  text.toList.all Token.isNamePart && text.toList.head?.any Token.isNameStart

/-- A definition among the arguments. -/
def definition? (text : String) : Option (String × String) :=
  let name := String.ofList (text.toList.takeWhile (· != '='))
  if name.length < text.length && isName name then some (name, String.ofList (text.toList.drop (name.length + 1))) else none

/-- The next record of the input. Files are opened, and definitions carried out, when their turn comes. -/
def nextMain (setting : Setting) (fuel : Nat) : Step (Option String) := fun exits memory next =>
  match fuel with
  | 0 => .exit 2
  | fuel + 1 =>
    match memory.current with
    | some inflow =>
      inflow.next (recordEnd memory) Program.rounds fun record inflow =>
        match record with
        | some record => next (some record) (({ memory with current := some inflow }.count "NR").count "FNR")
        | none =>
          Program.performAll (if inflow.descriptor = 0 then [] else [.close inflow.descriptor]) fun _ =>
            nextMain setting fuel exits { memory with current := none } next
    | none =>
      let total := natural (memory.global "ARGC").toNumber
      let open' (descriptor : Nat) (path : String) (memory : Memory) : Program :=
        let memory := (memory.setGlobal "FNR" (.number 0)).setGlobal "FILENAME" (.input path)
        nextMain setting fuel exits { memory with current := some { descriptor }, hasFile := true } next
      if total ≤ memory.nextArgument then
        if memory.hasFile then next none memory else open' 0 "-" memory
      else
        let place := memory.nextArgument
        let memory := { memory with nextArgument := place + 1 }
        let (number, memory) := memory.tableOf "ARGV"
        let argument := memory.text (((memory.table number).get? (toString place)).getD Value.none)
        if argument.isEmpty then nextMain setting fuel exits memory next
        else
          match definition? argument with
          | some (name, value) => nextMain setting fuel exits (memory.write name (.input (Token.unescaped value))) next
          | none =>
            if argument = "-" || argument = "/dev/stdin" then open' 0 argument memory
            else
              let descriptor := memory.nextDescriptor
              .call (.openFile descriptor ⟨argument⟩ .read) fun
                | .failed fault => memory.outlet.flush fun _ => cannotOpen setting argument fault
                | _ => open' descriptor argument { memory with nextDescriptor := descriptor + 1 }

/-- The next record of something that is open under a name. -/
def nextOf (key : String) : Step (Option String) := fun _ memory next =>
  match memory.inflows.find? (·.1 == key) with
  | none => next none memory
  | some (_, inflow) =>
    inflow.next (recordEnd memory) Program.rounds fun record inflow =>
      next record { memory with inflows := memory.inflows.map fun (other, held) => (other, if other = key then inflow else held) }

/-- Opens a file for reading, if it is not open; answers whether it is. -/
def openFile (path : String) : Step Bool := fun _ memory next =>
  if memory.inflows.any (·.1 == path) then next true memory
  else if path = "-" || path = "/dev/stdin" then
    next true { memory with inflows := (path, { descriptor := 0 }) :: memory.inflows }
  else
    let descriptor := memory.nextDescriptor
    .call (.openFile descriptor ⟨path⟩ .read) fun
      | .failed _ => next false memory
      | _ => next true { memory with nextDescriptor := descriptor + 1, inflows := (path, { descriptor }) :: memory.inflows }

def openCommand (setting : Setting) (command : String) : Step Unit := do
  if !((← get).inflows.any (·.1 == command)) then
    flushAll
    fun _ memory next =>
      startCommand command setting.environment false fun process descriptor =>
        next () { memory with inflows := (command, { descriptor, process := some process }) :: memory.inflows }

/-- Runs a command to its end. -/
def runCommand (setting : Setting) (command : String) : Step Int := do
  flushAll
  fun _ memory next =>
    let child : Program := .call (.execute ⟨"/bin/sh"⟩ ["/bin/sh", "-c", command] setting.environment) fun _ => .exit 127
    .fork child fun process => .call (.wait process) fun reply => next (statusNumber reply) memory

/-- Closes whatever is open under a name. -/
def close (name : String) : Step Int := fun _ memory next =>
  match memory.outflows.find? (·.name == name), memory.inflows.find? (·.1 == name) with
  | some outflow, _ =>
    outflow.close fun reply =>
      next (statusNumber reply) { memory with outflows := memory.outflows.filter (·.name != name) }
  | none, some (_, inflow) =>
    inflow.close fun reply => next (statusNumber reply) { memory with inflows := memory.inflows.filter (·.1 != name) }
  | none, none => next (-1) memory

/-- A text with matches replaced, and how many there were. In the replacement an ampersand stands for the match. -/
def replaced (regex : Regex) (text replacement : String) (isGlobal : Bool) : Nat × String :=
  let chars := text.toList.toArray
  let setting : Regex.Setting := { text := chars }
  let rec filled (found : List Char) : List Char → List Char
    | '\\' :: '&' :: rest => '&' :: filled found rest
    | '\\' :: '\\' :: rest => '\\' :: filled found rest
    | '&' :: rest => found ++ filled found rest
    | c :: rest => c :: filled found rest
    | [] => []
  let rec go (fuel position count : Nat) (before : Option Nat) (held : List (List Char)) : Nat × List (List Char) :=
    let rest : List Char := (chars.extract position chars.size).toList
    match fuel with
    | 0 => (count, rest :: held)
    | fuel + 1 =>
      match if chars.size < position then none else regex.find? setting position with
      | none => (count, rest :: held)
      | some found =>
        let between := (chars.extract position found.first).toList
        let onward := (chars.extract found.last (found.last + 1)).toList
        let isEmpty := found.first = found.last
        if isEmpty && before == some found.first then go fuel (found.last + 1) count none (onward :: between :: held)
        else
          let piece := filled (chars.extract found.first found.last).toList replacement.toList
          if !isGlobal then (count + 1, (chars.extract found.last chars.size).toList :: piece :: between :: held)
          else if isEmpty then go fuel (found.last + 1) (count + 1) none (onward :: piece :: between :: held)
          else go fuel found.last (count + 1) (some found.last) (piece :: between :: held)
  let (count, pieces) := go (2 * chars.size + 2) 0 0 none []
  (count, String.ofList pieces.reverse.flatten)

/-- The place of a text in another one, counted from one. -/
def indexOf (text part : List Char) : Nat → Nat
  | place =>
    match text with
    | [] => if part.isEmpty then place else 0
    | _ :: rest => if part.isPrefixOf text then place else indexOf rest part (place + 1)

def substring (text : String) (start : Float) (count : Option Float) : String :=
  let first := truncated start
  let last : Int :=
    match count with
    | none => text.length + 1
    | some count => if count.isNaN then first else if count < 1e9 then truncated (start + count) else text.length + 1
  let first' := max first 1
  let last' := min last (text.length + 1)
  String.ofList ((text.toList.drop (first' - 1).toNat).take (last' - first').toNat)

/-- A number between zero and one, and the next seed. -/
def draw (seed : Nat) : Float × Nat :=
  let seed := (seed * 1103515245 + 12345) % 2147483648
  (Float.ofNat seed / 2147483648, seed)

def compiled (setting : Setting) (text : String) : Step Regex :=
  match Parse.regexOf? text with
  | .ok regex => pure regex
  | .error fault => runFault setting s!"regular expression compile failed ({Parse.regexFault fault})\n{text}"

def isFound (regex : Regex) (text : String) : Bool := (regex.find? { text := text.toList.toArray } 0).isSome

/-- A text written in a format, which is the first of some values. -/
def formatted (setting : Setting) (tool : String) (values : List Value) (next : String → Step Unit) : Step String := do
  let memory ← get
  let format := memory.text (values.headD Value.none)
  let (text, fault) := Format.write memory.textFormat (format.length + 1) 0 [] values.tail format.toList
  let text := String.ofList text
  match fault with
  | none => return text
  | some .missing => do
    next text
    runFault setting ("not enough arguments passed to " ++ tool ++ "(\"" ++ format ++ "\")")
  | some (.improper number) => do
    next text
    runFault setting (s!"improper conversion(number {number}) in " ++ tool ++ "(\"" ++ format ++ "\")")

mutual

def evaluate (setting : Setting) (fuel : Nat) (expr : Expr) : Step Value := do
  match fuel with
  | 0 => runFault setting "function call nesting too deep"
  | fuel + 1 =>
    match expr with
    | .number value => return .number value
    | .text text => return .text text
    | .regex regex => return .ofBool (isFound regex (← get).record)
    | .name name => use (Memory.read name)
    | .item table keys =>
      let key ← evaluateKey setting fuel keys
      let number ← use (Memory.tableOf table)
      let memory ← get
      match (memory.table number).get? key.1 with
      | some value => return value
      | none =>
        change (Memory.setTable number ((memory.table number).put key.1 key.2 .none))
        return .none
    | .field place =>
      let place ← evaluate setting fuel place
      let number := truncated place.toNumber
      if number < 0 then runFault setting s!"negative field index ${number}"
      else use (Memory.field number.toNat)
    | .assign operation target value =>
      match operation with
      | none =>
        let value ← evaluate setting fuel value
        assign setting fuel target value
        return value
      | some operation =>
        let value ← evaluate setting fuel value
        let before ← evaluate setting fuel target
        let value := Value.number (operation.apply before.toNumber value.toNumber)
        assign setting fuel target value
        return value
    | .count target up before =>
      let held := (← evaluate setting fuel target).toNumber
      let after := if up then held + 1 else held - 1
      assign setting fuel target (.number after)
      return .number (if before then held else after)
    | .arith operation first second =>
      let a ← evaluate setting fuel first
      let b ← evaluate setting fuel second
      return .number (operation.apply a.toNumber b.toNumber)
    | .negate value => return .number (0 - (← evaluate setting fuel value).toNumber)
    | .plus value => return .number (← evaluate setting fuel value).toNumber
    | .opposite value => return .ofBool (!(← evaluate setting fuel value).isTrue)
    | .compare relation first second =>
      let a ← evaluate setting fuel first
      let b ← evaluate setting fuel second
      return .ofBool (relation.compare (← get).textFormat a b)
    | .fits negated text pattern =>
      let text ← evaluate setting fuel text
      let regex ← evaluateRegex setting fuel pattern
      return .ofBool (isFound regex ((← get).text text) != negated)
    | .contains keys table =>
      let key ← evaluateKey setting fuel keys
      let number ← use (Memory.tableOf table)
      return .ofBool (((← get).table number).contains key.1)
    | .both first second =>
      if (← evaluate setting fuel first).isTrue then return .ofBool (← evaluate setting fuel second).isTrue else return .ofBool false
    | .either first second =>
      if (← evaluate setting fuel first).isTrue then return .ofBool true else return .ofBool (← evaluate setting fuel second).isTrue
    | .choose condition first second =>
      if (← evaluate setting fuel condition).isTrue then evaluate setting fuel first else evaluate setting fuel second
    | .join first second =>
      let a ← evaluate setting fuel first
      let b ← evaluate setting fuel second
      let memory ← get
      return .text (memory.text a ++ memory.text b)
    | .call name arguments =>
      match setting.script.functions.find? (·.name == name) with
      | none => fun _ memory _ =>
        memory.outlet.flush fun _ =>
          Program.writeText 2 (setting.tool ++ s!": line 2: function {name} never defined\n") fun _ => .exit 2
      | some function => callFunction setting fuel function arguments
    | .primitive function arguments => callPrimitive setting fuel function arguments
    | .readNext target =>
      match ← nextMain setting 100000 with
      | none => return .number 0
      | some record => do
        match target with
        | none => change (Memory.setRecord record)
        | some target => assign setting fuel target (.input record)
        return .number 1
    | .readFile target path =>
      let path := (← get).text (← evaluate setting fuel path)
      if !(← openFile path) then return .number (-1)
      match ← nextOf path with
      | none => return .number 0
      | some record =>
        match target with
        | none => change (Memory.setRecord record)
        | some target => assign setting fuel target (.input record)
        return .number 1
    | .readCommand command target =>
      let command := (← get).text (← evaluate setting fuel command)
      openCommand setting command
      match ← nextOf command with
      | none => return .number 0
      | some record =>
        match target with
        | none => change fun memory => (memory.setRecord record).count "NR"
        | some target =>
          assign setting fuel target (.input record)
          change (Memory.count "NR")
        return .number 1
    | .grouped value => evaluate setting fuel value
    | .tuple values =>
      let key ← evaluateKey setting fuel values
      return .text key.1

/-- The values of expressions, first one first. -/
def evaluateAll (setting : Setting) (fuel : Nat) (exprs : List Expr) : Step (List Value) := do
  match fuel with
  | 0 => runFault setting "function call nesting too deep"
  | fuel + 1 =>
    match exprs with
    | [] => return []
    | expr :: rest =>
      let value ← evaluate setting fuel expr
      return value :: (← evaluateAll setting fuel rest)

/-- The key that values are together, and whether it is a number. -/
def evaluateKey (setting : Setting) (fuel : Nat) (keys : List Expr) : Step (String × Bool) := do
  match fuel with
  | 0 => runFault setting "function call nesting too deep"
  | fuel + 1 =>
    let values ← evaluateAll setting fuel keys
    let memory ← get
    match values with
    | [.number value] => return (memory.text (.number value), isWhole value)
    | values => return ((memory.text (memory.global "SUBSEP")).intercalate (values.map memory.text), false)

/-- An expression that stands where a pattern is wanted. -/
def evaluateRegex (setting : Setting) (fuel : Nat) (expr : Expr) : Step Regex := do
  match fuel with
  | 0 => runFault setting "function call nesting too deep"
  | fuel + 1 =>
    match expr with
    | .regex regex => return regex
    | expr =>
      let value ← evaluate setting fuel expr
      compiled setting ((← get).text value)

def assign (setting : Setting) (fuel : Nat) (target : Expr) (value : Value) : Step Unit := do
  match fuel with
  | 0 => runFault setting "function call nesting too deep"
  | fuel + 1 =>
    match target with
    | .name name => change (Memory.write name value)
    | .item table keys =>
      let key ← evaluateKey setting fuel keys
      let number ← use (Memory.tableOf table)
      change fun memory => memory.setTable number ((memory.table number).put key.1 key.2 value)
    | .field place =>
      let place ← evaluate setting fuel place
      change (Memory.setField (natural place.toNumber) value)
    | .grouped target => assign setting fuel target value
    | _ => return

/-- Arguments as the names of a function: tables are handed over as such, and so is what may become one. -/
def bindArguments (setting : Setting) (fuel : Nat) (parameters : List String) (arguments : List Expr) :
    Step (List (String × Slot)) := do
  match fuel with
  | 0 => runFault setting "function call nesting too deep"
  | fuel + 1 =>
    match parameters, arguments with
    | [], _ => return []
    | name :: rest, [] => return (name, .plain .none) :: (← bindArguments setting fuel rest [])
    | name :: rest, argument :: others =>
      let slot ←
        match argument with
        | .name given => do
          let memory ← get
          match if given = "NF" then some (.plain .none) else memory.slot? given with
          | some (.plain .none) =>
            if given = "NF" then pure (Slot.plain (← evaluate setting fuel argument))
            else pure (.table (← use (Memory.tableOf given)))
          | none => pure (.table (← use (Memory.tableOf given)))
          | some slot => pure slot
        | argument => pure (.plain (← evaluate setting fuel argument))
      return (name, slot) :: (← bindArguments setting fuel rest others)

def callFunction (setting : Setting) (fuel : Nat) (function : Function) (arguments : List Expr) : Step Value := do
  match fuel with
  | 0 => runFault setting "function call nesting too deep"
  | fuel + 1 =>
    let slots ← bindArguments setting fuel function.parameters arguments
    let outer := (← get).locals
    change fun memory => { memory with locals := slots }
    let value ← fun exits memory next =>
      execute setting fuel function.body { exits with answer := next } memory fun _ memory => next .none memory
    change fun memory => { memory with locals := outer }
    return value

def callPrimitive (setting : Setting) (fuel : Nat) (function : Primitive) (arguments : List Expr) : Step Value := do
  match fuel with
  | 0 => runFault setting "function call nesting too deep"
  | fuel + 1 =>
    let numeric (apply : Float → Float) : Step Value := do
      let values ← evaluateAll setting fuel arguments
      return .number (apply (values.headD Value.none).toNumber)
    let textual (apply : String → Value) : Step Value := do
      let values ← evaluateAll setting fuel arguments
      return apply ((← get).text (values.headD Value.none))
    let replace (isGlobal : Bool) : Step Value := do
      match arguments with
      | pattern :: replacement :: target => do
        let regex ← evaluateRegex setting fuel pattern
        let replacement ← evaluate setting fuel replacement
        let target := target.headD (.field (.number 0))
        let held ← evaluate setting fuel target
        let memory ← get
        let (count, text) := replaced regex (memory.text held) (memory.text replacement) isGlobal
        if 0 < count then assign setting fuel target (.text text)
        return .ofNat count
      | _ => return .number 0
    match function with
    | .length =>
      match arguments with
      | [] => return .ofNat (← get).record.length
      | [.name name] => do
        match (← get).slot? name with
        | some (.table number) => return .ofNat ((← get).table number).entries.size
        | _ => textual fun text => .ofNat text.length
      | _ => textual fun text => .ofNat text.length
    | .substring =>
      let values ← evaluateAll setting fuel arguments
      let text := (← get).text (values.headD Value.none)
      return .text (substring text ((values[1]?).getD Value.none).toNumber ((values[2]?).map Value.toNumber))
    | .index =>
      let values ← evaluateAll setting fuel arguments
      let memory ← get
      return .ofNat (indexOf (memory.text (values.headD Value.none)).toList (memory.text ((values[1]?).getD Value.none)).toList 1)
    | .split =>
      match arguments with
      | text :: .name table :: separator =>
        let text := (← get).text (← evaluate setting fuel text)
        let pieces ←
          match separator with
          | [] => do pure (Memory.split (← get).fieldSeparator text)
          | .regex regex :: _ => pure (Memory.splitBy regex text)
          | separator :: _ => do
            let value ← evaluate setting fuel separator
            pure (Memory.split ((← get).text value) text)
        let number ← use (Memory.tableOf table)
        change (Memory.setTable number (.ofList (pieces.map Value.input)))
        return .ofNat pieces.length
      | _ => return .number 0
    | .replaceFirst => replace false
    | .replaceAll => replace true
    | .matches =>
      match arguments with
      | [text, pattern] =>
        let text := (← get).text (← evaluate setting fuel text)
        let regex ← evaluateRegex setting fuel pattern
        let (start, count) : Nat × Float :=
          match regex.find? { text := text.toList.toArray } 0 with
          | some found => (found.first + 1, Float.ofNat (found.last - found.first))
          | none => (0, -1)
        change fun memory => (memory.setGlobal "RSTART" (.ofNat start)).setGlobal "RLENGTH" (.number count)
        return .ofNat start
      | _ => return .number 0
    | .format =>
      let values ← evaluateAll setting fuel arguments
      return .text (← formatted setting "sprintf" values fun _ => pure ())
    | .lower => textual fun text => .text (text.map Char.toLower)
    | .upper => textual fun text => .text (text.map Char.toUpper)
    | .whole => numeric fun value => if value < 0 then value.ceil else value.floor
    | .root => numeric Float.sqrt
    | .exponential => numeric Float.exp
    | .logarithm => numeric Float.log
    | .sine => numeric Float.sin
    | .cosine => numeric Float.cos
    | .arcTangent =>
      let values ← evaluateAll setting fuel arguments
      return .number (Float.atan2 (values.headD Value.none).toNumber ((values[1]?).getD Value.none).toNumber)
    | .random =>
      let (value, seed) := draw (← get).seed
      change fun memory => { memory with seed }
      return .number value
    | .seed =>
      let values ← evaluateAll setting fuel arguments
      let before := (← get).earlierSeed
      let seed := natural (values.headD Value.none).toNumber
      change fun memory => { memory with seed, earlierSeed := seed }
      return .ofNat before
    | .system =>
      let values ← evaluateAll setting fuel arguments
      let status ← runCommand setting ((← get).text (values.headD Value.none))
      return .number (Float.ofInt status)
    | .close =>
      let values ← evaluateAll setting fuel arguments
      return .number (Float.ofInt (← close ((← get).text (values.headD Value.none))))
    | .flush =>
      let _ ← evaluateAll setting fuel arguments
      flushAll
      return .number 0

/-- Carries out a statement. -/
def execute (setting : Setting) (fuel : Nat) (statement : Statement) : Step Unit := do
  match fuel with
  | 0 => runFault setting "function call nesting too deep"
  | fuel + 1 =>
    let put (channel : Option (Channel × Expr)) (text : String) : Step Unit := do
      match channel with
      | none => write text
      | some (channel, name) =>
        let name ← evaluate setting fuel name
        writeTo setting channel ((← get).text name) text
    match statement with
    | .evaluate value => do
      let _ ← evaluate setting fuel value
      return
    | .print values channel =>
      let values ← evaluateAll setting fuel values
      let memory ← get
      let shown (value : Value) : String := value.toText (memory.text (memory.global "OFMT"))
      let line := if values.isEmpty then memory.record else (memory.text (memory.global "OFS")).intercalate (values.map shown)
      put channel (line ++ memory.text (memory.global "ORS"))
    | .printFormat values channel =>
      let values ← evaluateAll setting fuel values
      let text ← formatted setting "printf" values (put channel)
      put channel text
    | .ifElse condition first second =>
      if (← evaluate setting fuel condition).isTrue then execute setting fuel first
      else
        match second with
        | some second => execute setting fuel second
        | none => return
    | .whileTrue condition body =>
      repeatWhile setting fuel (some condition) body none
    | .doWhile body condition =>
      fun exits memory next =>
        let onward (memory : Memory) : Program := repeatWhile setting fuel (some condition) body none exits memory next
        execute setting fuel body { exits with stop := next (), again := onward } memory fun _ memory => onward memory
    | .forLoop start condition step body => do
      match start with
      | some start => execute setting fuel start
      | none => pure ()
      repeatWhile setting fuel condition body step
    | .forKeys name table body =>
      let number ← use (Memory.tableOf table)
      let keys := ((← get).table number).keys
      forEach setting fuel name keys body
    | .block statements => executeAll setting fuel statements
    | .nextRecord => fun exits memory _ => exits.nextRecord memory
    | .nextFile => fun exits memory _ => exits.nextFile memory
    | .leave code =>
      match code with
      | none => fun exits memory _ => exits.leave 0 memory
      | some code =>
        let value ← evaluate setting fuel code
        fun exits memory _ => exits.leave ((truncated value.toNumber % 256).toNat + 1) memory
    | .answer value =>
      match value with
      | none => fun exits memory _ => exits.answer .none memory
      | some value =>
        let value ← evaluate setting fuel value
        fun exits memory _ => exits.answer value memory
    | .stop => fun exits memory _ => exits.stop memory
    | .again => fun exits memory _ => exits.again memory
    | .forget table keys =>
      let number ← use (Memory.tableOf table)
      match keys with
      | [] => change (Memory.setTable number {})
      | keys =>
        let key ← evaluateKey setting fuel keys
        change fun memory => memory.setTable number ((memory.table number).erase key.1)

def executeAll (setting : Setting) (fuel : Nat) (statements : List Statement) : Step Unit := do
  match fuel with
  | 0 => runFault setting "function call nesting too deep"
  | fuel + 1 =>
    match statements with
    | [] => return
    | statement :: rest =>
      execute setting fuel statement
      executeAll setting fuel rest

/-- Carries a statement out as long as a condition holds, with a further one behind each time. -/
def repeatWhile (setting : Setting) (fuel : Nat) (condition : Option Expr) (body : Statement) (step : Option Statement) :
    Step Unit := do
  match fuel with
  | 0 => runFault setting "function call nesting too deep"
  | fuel + 1 =>
    let holds ←
      match condition with
      | none => pure true
      | some condition => do pure (← evaluate setting fuel condition).isTrue
    if holds then
      fun exits memory next =>
        let onward (memory : Memory) : Program :=
          let again (memory : Memory) : Program := repeatWhile setting fuel condition body step exits memory next
          match step with
          | none => again memory
          | some step => execute setting fuel step exits memory fun _ memory => again memory
        execute setting fuel body { exits with stop := next (), again := onward } memory fun _ memory => onward memory

/-- Carries a statement out for each key. -/
def forEach (setting : Setting) (fuel : Nat) (name : String) (keys : List String) (body : Statement) : Step Unit := do
  match fuel with
  | 0 => runFault setting "function call nesting too deep"
  | fuel + 1 =>
    match keys with
    | [] => return
    | key :: rest =>
      change (Memory.write name (.input key))
      fun exits memory next =>
        let onward (memory : Memory) : Program := forEach setting fuel name rest body exits memory next
        execute setting fuel body { exits with stop := next (), again := onward } memory fun _ memory => onward memory

end

end BuildWatch.Toolbox.Awk
