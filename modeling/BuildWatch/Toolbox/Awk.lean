import BuildWatch.Toolbox.Awk.Evaluator
import BuildWatch.Toolbox.Awk.Statements
import BuildWatch.Toolbox.Options

/-! A program that carries a script out on the records of its input. -/

namespace BuildWatch.Toolbox

open Machine

namespace Awk

/-- How deep a script may go, and how long its loops may be. -/
def depth : Nat := 100000000

/-- Closes everything, the latest first, shows what is left, and ends. -/
def finish (code : Nat) (memory : Memory) : Program :=
  let rec go : List Outflow → Program
    | [] => memory.outlet.flush fun _ => .exit code
    | outflow :: rest => outflow.close fun _ => go rest
  go memory.outflows

/-- Carries out the rules of a record, first one first. -/
def applyRules (setting : Setting) : List (Nat × Rule) → Step Unit
  | [] => pure ()
  | (index, rule) :: rest => do
    let act : Step Unit :=
      match rule.action with
      | some action => execute setting depth action
      | none => do
        let memory ← Step.get
        write (memory.record ++ memory.text (memory.global "ORS"))
    match rule.when with
    | .always => act
    | .onTruth condition => if (← evaluate setting depth condition).isTrue then act
    | .between first last =>
      let isOpen := (← Step.get).openRules.contains index
      let begins ← if isOpen then pure true else do pure (← evaluate setting depth first).isTrue
      if begins then
        let ends := (← evaluate setting depth last).isTrue
        Step.change fun memory =>
          { memory with openRules := if ends then memory.openRules.filter (· != index) else index :: memory.openRules.filter (· != index) }
        act
    | _ => pure ()
    applyRules setting rest

/-- Goes through all records. -/
def records (setting : Setting) (rules : List (Nat × Rule)) (leave : Nat → Memory → Program) (fuel : Nat) (memory : Memory)
    (next : Memory → Program) : Program :=
  match fuel with
  | 0 => .exit 2
  | fuel + 1 =>
    let onward (memory : Memory) : Program := records setting rules leave fuel { memory with locals := [] } next
    let skipFile (memory : Memory) : Program := onward { memory with current := memory.current.map fun inflow => { inflow with held := [], ended := true } }
    let exits : Exits :=
      { leave, nextRecord := onward, nextFile := skipFile, answer := fun _ => onward, stop := onward, again := onward }
    nextMain setting 100000 exits memory fun record memory =>
      match record with
      | none => next memory
      | some record => applyRules setting rules exits (memory.setRecord record) fun _ memory => onward memory

/-- Carries out the actions of the rules at the start or at the end. -/
def actAll (setting : Setting) (actions : List Statement) (leave : Nat → Memory → Program) (memory : Memory)
    (next : Memory → Program) : Program :=
  match actions with
  | [] => next memory
  | action :: rest =>
    let onward (memory : Memory) : Program := actAll setting rest leave { memory with locals := [] } next
    let exits : Exits :=
      { leave, nextRecord := onward, nextFile := onward, answer := fun _ => onward, stop := onward, again := onward }
    execute setting depth action exits memory fun _ memory => onward memory

def actionsAt (script : Script) (isStart : Bool) : List Statement :=
  script.rules.filterMap fun rule =>
    match rule.when, isStart with
    | .atStart, true => rule.action
    | .atEnd, false => rule.action
    | _, _ => none

/-- Carries a script out. A status that was asked for at first holds unless another one is asked for at the end. -/
def run (setting : Setting) (memory : Memory) : Program :=
  let ofRecords := setting.script.rules.zipIdx.filterMap fun (rule, index) =>
    match rule.when with
    | .atStart => none
    | .atEnd => none
    | _ => some (index, rule)
  let endings := actionsAt setting.script false
  let status (code before : Nat) : Nat := (if code = 0 then before else code - 1) % 256
  let conclude (before : Nat) (memory : Memory) : Program :=
    actAll setting endings (fun code memory => finish (status code before) memory) memory (finish before)
  let leave (code : Nat) (memory : Memory) : Program := conclude (status code 0) { memory with locals := [] }
  actAll setting (actionsAt setting.script true) leave memory fun memory =>
    if ofRecords.isEmpty && endings.isEmpty then finish 0 memory
    else records setting ofRecords leave Program.rounds memory (conclude 0)

def start (environment : Environment) (arguments : List String) : Memory :=
  let memory : Memory :=
    { globals :=
        [("FS", .plain (.text " ")), ("OFS", .plain (.text " ")), ("ORS", .plain (.text "\n")), ("RS", .plain (.text "\n")),
          ("NR", .plain (.number 0)), ("FNR", .plain (.number 0)), ("SUBSEP", .plain (.text "\x1c")),
          ("CONVFMT", .plain (.text "%.6g")), ("OFMT", .plain (.text "%.6g")), ("FILENAME", .plain .none),
          ("RSTART", .plain (.number 0)), ("RLENGTH", .plain (.number (-1))),
          ("ARGC", .plain (.ofNat arguments.length)), ("ARGV", .table 0), ("ENVIRON", .table 1)]
      nextTable := 2 }
  let given := (arguments.zipIdx).foldl (fun (table : Table) (text, place) => table.put (toString place) true (.input text)) {}
  let surroundings := environment.foldl (fun (table : Table) (name, value) => table.put name false (.input value)) {}
  (memory.setTable 0 given).setTable 1 surroundings

/-- What a script is called with. -/
structure Call where
  definitions : List (String × String) := []
  /-- Files with parts of the script, first one first. -/
  files : List String := []
  operands : List String := []

/-- Why a call is wrong. -/
inductive CallFault where
  | unknown (option : String)
  | improper (text : String)
  | noValue (option : String)

def readCall (fuel : Nat) (call : Call) (arguments : List String) : Except CallFault Call :=
  match fuel, arguments with
  | 0, operands => .ok { call with operands }
  | _, [] => .ok call
  | fuel + 1, argument :: rest =>
    let withValue (value : List Char) (use : String → Call → Except CallFault Call) : Except CallFault Call :=
      match value, rest with
      | [], next :: rest => do readCall fuel (← use next call) rest
      | [], [] => .error (.noValue argument)
      | value, rest => do readCall fuel (← use (String.ofList value) call) rest
    match argument.toList with
    | ['-', '-'] => .ok { call with operands := rest }
    | '-' :: 'F' :: value =>
      withValue value fun text call => .ok { call with definitions := call.definitions ++ [("FS", text)] }
    | '-' :: 'f' :: value => withValue value fun text call => .ok { call with files := call.files ++ [text] }
    | '-' :: 'v' :: value =>
      withValue value fun text call =>
        match definition? text with
        | some definition => .ok { call with definitions := call.definitions ++ [definition] }
        | none => .error (.improper text)
    | '-' :: 'W' :: value => withValue value fun _ call => .ok call
    | ['-'] => .ok { call with operands := argument :: rest }
    | '-' :: _ => .error (.unknown argument)
    | _ => .ok { call with operands := argument :: rest }

/-- The texts of files, put together. -/
def joined (files : List String) (next : String → Program) : Program :=
  go files []
where
  go : List String → List String → Program
    | [], held => next ("\n".intercalate held.reverse)
    | "-" :: rest, held => Program.readAll 0 fun bytes => go rest (ByteText.ofBytes bytes :: held)
    | path :: rest, held =>
      .call (.openFile inputDescriptor ⟨path⟩ .read) fun
        | .failed fault => refuseWith 2 "awk" (s!"cannot open \"{path}\" (" ++ fault.reason ++ ")")
        | _ =>
          Program.readAll inputDescriptor fun bytes =>
            Program.perform (.close inputDescriptor) fun _ => go rest (ByteText.ofBytes bytes :: held)

def carryOut (call : Call) (text : String) (operands : List String) (environment : Environment) : Program :=
  match Script.ofText text with
  | .error fault => refuseWith 2 "awk" s!"line {fault.line}: {fault.text}"
  | .ok script =>
    let memory := call.definitions.foldl (fun (memory : Memory) (name, value) => memory.write name (.input (Token.unescaped value)))
      (start environment ("awk" :: operands))
    run { script, environment } memory

end Awk

def awk : Tool := fun arguments environment =>
  match Awk.readCall (arguments.length + 1) {} arguments with
  | .error (.unknown option) => refuseWith 2 "awk" s!"not an option: {option}"
  | .error (.improper text) => refuseWith 2 "awk" s!"improper assignment: -v {text}"
  | .error (.noValue option) => refuseWith 2 "awk" s!"option requires an argument -- {option}"
  | .ok call =>
    match call.files, call.operands with
    | [], [] => Program.writeText 2 "Usage: mawk [Options] [Program] [file ...]\n" fun _ => .exit 2
    | [], text :: operands => Awk.carryOut call text operands environment
    | files, operands => Awk.joined files fun text => Awk.carryOut call text operands environment

end BuildWatch.Toolbox
