import BuildWatch.Toolbox.Awk.Reader
import BuildWatch.Toolbox.Awk.Table
import BuildWatch.Toolbox.Feed

/-! What a script works on: variables, tables, the record with its fields, and what is open. -/

namespace BuildWatch.Toolbox.Awk

open Machine

/-- What a name stands for. A table that nobody has used yet may still become a plain value. -/
inductive Slot where
  | plain (value : Value)
  | table (number : Nat)
  deriving Inhabited

/-- Something that records are read from. -/
structure Inflow where
  descriptor : Nat
  held : List Char := []
  ended : Bool := false
  /-- The command that writes it. -/
  process : Option Nat := none
  deriving Inhabited

/-- Something that is written to. -/
structure Outflow where
  name : String
  channel : Channel
  descriptor : Nat
  process : Option Nat := none
  /-- What a command has not been given yet, last piece first. -/
  held : List String := []
  deriving Inhabited

structure Memory where
  globals : List (String × Slot) := []
  /-- The names of the function that is being carried out. -/
  locals : List (String × Slot) := []
  tables : Std.HashMap Nat Table := {}
  nextTable : Nat := 0
  record : String := ""
  /-- The fields of the record, once somebody has asked for them. -/
  fields : Option (Array Value) := some #[]
  /-- What separates the fields of this record. -/
  separator : String := " "
  outlet : Outlet := {}
  inflows : List (String × Inflow) := []
  outflows : List Outflow := []
  nextDescriptor : Nat := 1000
  /-- The input whose records are gone through, and the argument that comes next. -/
  current : Option Inflow := none
  nextArgument : Nat := 1
  /-- A file has been named, so that the input that comes in by itself does not count. -/
  hasFile : Bool := false
  seed : Nat := 1
  earlierSeed : Nat := 0
  /-- Pairs of patterns of which the first one has fitted and the second one has not. -/
  openRules : List Nat := []
  deriving Inhabited

namespace Memory

def slot? (memory : Memory) (name : String) : Option Slot :=
  match memory.locals.find? (·.1 == name) with
  | some (_, slot) => some slot
  | none => (memory.globals.find? (·.1 == name)).map (·.2)

def setSlot (name : String) (slot : Slot) (memory : Memory) : Memory :=
  let replace (slots : List (String × Slot)) : List (String × Slot) :=
    slots.map fun (other, held) => if other = name then (other, slot) else (other, held)
  if memory.locals.any (·.1 == name) then { memory with locals := replace memory.locals }
  else if memory.globals.any (·.1 == name) then { memory with globals := replace memory.globals }
  else { memory with globals := (name, slot) :: memory.globals }

def global (memory : Memory) (name : String) : Value :=
  match memory.globals.find? (·.1 == name) with
  | some (_, .plain value) => value
  | _ => .none

def setGlobal (name : String) (value : Value) (memory : Memory) : Memory :=
  { { memory with locals := [] }.setSlot name (.plain value) with locals := memory.locals }

/-- How numbers become texts. -/
def textFormat (memory : Memory) : String := (memory.global "CONVFMT").toText "%.6g"

def text (memory : Memory) (value : Value) : String := value.toText memory.textFormat

/-- The table of a name, which is made if there is none. -/
def tableOf (name : String) (memory : Memory) : Nat × Memory :=
  match memory.slot? name with
  | some (.table number) => (number, memory)
  | _ =>
    let number := memory.nextTable
    (number, { memory with nextTable := number + 1 }.setSlot name (.table number))

def table (memory : Memory) (number : Nat) : Table := (memory.tables.get? number).getD {}

def setTable (number : Nat) (table : Table) (memory : Memory) : Memory :=
  { memory with tables := memory.tables.insert number table }

def isBlank (c : Char) : Bool := c = ' ' || c = '\t' || c = '\n'

/-- Words between blanks. -/
def words (fuel : Nat) (text : List Char) : List String :=
  match fuel with
  | 0 => []
  | fuel + 1 =>
    let text := text.dropWhile isBlank
    if text.isEmpty then []
    else
      let word := text.takeWhile fun c => !isBlank c
      String.ofList word :: words fuel (text.drop word.length)

/-- The pieces between matches of an expression. A match without width separates nothing. -/
def between (regex : Regex) (setting : Regex.Setting) (fuel position : Nat) : List String :=
  let rest : List String := [String.ofList (setting.text.extract position setting.text.size).toList]
  match fuel with
  | 0 => rest
  | fuel + 1 =>
    match wide fuel position with
    | none => rest
    | some found => String.ofList (setting.text.extract position found.first).toList :: between regex setting fuel found.last
where
  wide (fuel position : Nat) : Option Regex.Match :=
    match fuel with
    | 0 => none
    | fuel + 1 =>
      match regex.find? setting position with
      | none => none
      | some found => if found.first < found.last then some found else wide fuel (found.last + 1)

def splitBy (regex : Regex) (text : String) : List String :=
  if text.isEmpty then [] else between regex { text := text.toList.toArray } (text.length + 1) 0

/-- The pieces of a text between separators. -/
def split (separator text : String) : List String :=
  if text.isEmpty then []
  else
    match separator.toList with
    | [] => text.toList.map String.singleton
    | [' '] => words (text.length + 1) text.toList
    | [c] => text.splitOn (String.singleton c)
    | _ =>
      match Parse.regexOf? separator with
      | .ok regex => splitBy regex text
      | .error _ => text.splitOn separator
/-- The separator of fields. Where records end at empty lines, fields end at lines, too. -/
def fieldSeparator (memory : Memory) : String :=
  let separator := memory.text (memory.global "FS")
  if (memory.text (memory.global "RS")).isEmpty && separator != " " then
    match separator.toList with
    | [c] => String.ofList ['[', c, '\n', ']']
    | _ => separator ++ "|\n"
  else separator

def setRecord (record : String) (memory : Memory) : Memory :=
  { memory with record, fields := none, separator := memory.fieldSeparator }

/-- The fields of the record, taken apart if that has not been done. -/
def withFields (memory : Memory) : Array Value × Memory :=
  match memory.fields with
  | some fields => (fields, memory)
  | none =>
    let fields := (split memory.separator memory.record).toArray.map Value.input
    (fields, { memory with fields := some fields })

def setFields (fields : Array Value) (memory : Memory) : Memory :=
  let separator := memory.text (memory.global "OFS")
  let texts := fields.toList.map memory.text
  { memory with fields := some fields, record := separator.intercalate texts }

def field (place : Nat) (memory : Memory) : Value × Memory :=
  if place = 0 then (.input memory.record, memory)
  else
    let (fields, memory) := memory.withFields
    ((fields[place - 1]?).getD (.input ""), memory)

/-- A further field makes those in front of it empty if they are not there. -/
def widen (count : Nat) (fields : Array Value) : Array Value :=
  fields ++ (List.replicate (count - fields.size) (Value.text "")).toArray

def setField (place : Nat) (value : Value) (memory : Memory) : Memory :=
  if place = 0 then memory.setRecord (memory.text value)
  else
    let (fields, memory) := memory.withFields
    memory.setFields ((widen place fields).setIfInBounds (place - 1) value)

/-- The value of a variable. -/
def read (name : String) (memory : Memory) : Value × Memory :=
  if name = "NF" && memory.locals.all (·.1 != name) then
    let (fields, memory) := memory.withFields
    (.ofNat fields.size, memory)
  else
    match memory.slot? name with
    | some (.plain value) => (value, memory)
    | _ => (.none, memory)

def write (name : String) (value : Value) (memory : Memory) : Memory :=
  if name = "NF" && memory.locals.all (·.1 != name) then
    let (fields, memory) := memory.withFields
    let count := natural value.toNumber
    memory.setFields (widen count (fields.extract 0 count))
  else
    let memory := if name = "FS" then memory.withFields.2 else memory
    memory.setSlot name (.plain value)

def count (name : String) (memory : Memory) : Memory :=
  memory.setGlobal name (.number ((memory.global name).toNumber + 1))

end Memory

/-- What ends a record. -/
inductive RecordEnd where
  | char (c : Char)
  | emptyLine
  | pattern (regex : Regex)
  deriving Inhabited

namespace RecordEnd

def ofText (text : String) : RecordEnd :=
  match text.toList with
  | [] => .emptyLine
  | [c] => .char c
  | _ =>
    match Parse.regexOf? text with
    | .ok regex => .pattern regex
    | .error _ => .char '\n'

/-- The text in front of two line feeds, and what stands behind them. -/
def cutParagraph (held : List Char) : List Char → Option (List Char × List Char)
  | '\n' :: '\n' :: rest => some (held.reverse, rest.dropWhile (· = '\n'))
  | c :: rest => cutParagraph (c :: held) rest
  | [] => none

/-- The first record of a text; `none` if it may not be all there. -/
def cut? (ending : RecordEnd) (ended : Bool) (text : List Char) : Option (List Char × List Char) :=
  match ending with
  | char c =>
    let record := text.takeWhile (· != c)
    match text.drop record.length with
    | _ :: rest => some (record, rest)
    | [] => if ended && !text.isEmpty then some (record, []) else none
  | emptyLine =>
    let text := text.dropWhile (· = '\n')
    match cutParagraph [] text with
    | some (record, rest) => if rest.isEmpty && !ended then none else some (record, rest)
    | none =>
      if ended && !text.isEmpty then some (if text.getLast? == some '\n' then text.dropLast else text, []) else none
  | pattern regex =>
    if !ended || text.isEmpty then none
    else
      let setting : Regex.Setting := { text := text.toArray }
      match Memory.between.wide regex setting (text.length + 1) 0 with
      | some found => some (text.take found.first, text.drop found.last)
      | none => some (text, [])

end RecordEnd

namespace Inflow

/-- The next record, if there is one. -/
def next (ending : RecordEnd) (fuel : Nat) (inflow : Inflow) (go : Option String → Inflow → Program) : Program :=
  match fuel with
  | 0 => .exit 2
  | fuel + 1 =>
    match ending.cut? inflow.ended inflow.held with
    | some (record, held) => go (some (String.ofList record)) { inflow with held }
    | none =>
      if inflow.ended then go none { inflow with held := [] }
      else
        .call (.read inflow.descriptor 65536) fun
          | .bytes (byte :: more) =>
            next ending fuel { inflow with held := inflow.held ++ (ByteText.ofBytes (byte :: more)).toList } go
          | _ => next ending fuel { inflow with ended := true } go

def close (inflow : Inflow) (next : Reply → Program) : Program :=
  Program.perform (.close inflow.descriptor) fun _ =>
    match inflow.process with
    | some process => .call (.wait process) next
    | none => next .done

end Inflow

/-- Starts a command of a shell with a stream under one of its descriptors, and answers the other end of the stream. -/
def startCommand (command : String) (environment : Environment) (reads : Bool) (next : Nat → Nat → Program) : Program :=
  .call .connect fun
    | .pair source sink =>
      let (inner, outer, place) := if reads then (source, sink, 0) else (sink, source, 1)
      let child : Program :=
        Program.performAll [.duplicate inner place, .close source, .close sink] fun _ =>
          .call (.execute ⟨"/bin/sh"⟩ ["/bin/sh", "-c", command] environment) fun _ => .exit 127
      .fork child fun process => Program.perform (.close inner) fun _ => next process outer
    | _ => .exit 2

namespace Outflow

def flush (outflow : Outflow) (next : Outflow → Program) : Program :=
  Program.writeText outflow.descriptor (String.join outflow.held.reverse) fun _ => next { outflow with held := [] }

/-- Closes what is written to, and waits for the command that reads it. -/
def close (outflow : Outflow) (next : Reply → Program) : Program :=
  outflow.flush fun outflow =>
    Program.perform (.close outflow.descriptor) fun _ =>
      match outflow.process with
      | some process => .call (.wait process) next
      | none => next .done

end Outflow

/-- What the end of a command counts as. -/
def statusNumber : Reply → Int
  | .status (.code code) => code
  | .status (.signal signal) => 256 + signal
  | .done => 0
  | _ => -1

end BuildWatch.Toolbox.Awk
