import BuildWatch.Toolbox.Passing

/-! Programs that cut what comes in into pieces. -/

namespace BuildWatch.Toolbox

open Machine

/-- How blocks are copied. -/
structure BlockCopy where
  size : Nat := 512
  count : Option Nat := none
  skipped : Nat := 0
  change : List UInt8 → List UInt8 := fun bytes => bytes
  /-- Blocks that are not full are read on. -/
  fills : Bool := false

/-- How many full blocks there were, how many others, and how many bytes. -/
structure BlockCount where
  full : Nat := 0
  partly : Nat := 0
  bytes : Nat := 0

namespace BlockCopy

/-- Reads a block, in several goes if it is to be full. -/
def readBlock (copy : BlockCopy) (fuel : Nat) (held : List UInt8) (next : List UInt8 → Program) : Program :=
  match fuel with
  | 0 => next held
  | fuel + 1 =>
    .call (.read 0 (copy.size - held.length)) fun
      | .bytes (byte :: more) =>
        let held := held ++ byte :: more
        if copy.fills && held.length < copy.size then readBlock copy fuel held next else next held
      | _ => next held

def run (copy : BlockCopy) (fuel skipped : Nat) (counted : BlockCount) (next : BlockCount → Program) : Program :=
  match fuel with
  | 0 => .exit 1
  | fuel + 1 =>
    if copy.count.any (· ≤ counted.full + counted.partly) then next counted
    else
      copy.readBlock 1000000 [] fun bytes =>
        if bytes.isEmpty then next counted
        else if 0 < skipped then run copy fuel (skipped - 1) counted next
        else
          writeAll "dd" (copy.change bytes) fun written =>
            if !written then .exit 1
            else
              let bytesNow := counted.bytes + bytes.length
              let counted :=
                if bytes.length = copy.size then { counted with full := counted.full + 1, bytes := bytesNow }
                else { counted with partly := counted.partly + 1, bytes := bytesNow }
              run copy fuel skipped counted next

end BlockCopy

/-- An operand that gives something a value. -/
def ddOperand? (arguments : List String) (name : String) : Option String :=
  (arguments.reverse.find? (·.startsWith (name ++ "="))).map fun text => String.ofList (text.toList.drop (name.length + 1))

def ddNames : List String := ["if", "of", "bs", "ibs", "obs", "count", "skip", "seek", "conv", "status", "iflag", "oflag", "cbs"]

/-- How bytes are changed on the way. -/
def conversion (name : String) (bytes : List UInt8) : List UInt8 :=
  let change (f : Char → Char) : List UInt8 := bytes.map fun byte => UInt8.ofNat (f (Char.ofNat byte.toNat)).toNat
  match name with
  | "ucase" => change Char.toUpper
  | "lcase" => change Char.toLower
  | "swab" =>
    let rec swap : List UInt8 → List UInt8
      | a :: b :: rest => b :: a :: swap rest
      | rest => rest
    swap bytes
  | _ => bytes

def dd : Tool := fun arguments _ =>
  let arguments := arguments.filter (· != "--")
  let value (name : String) : Option String := ddOperand? arguments name
  let wrong := arguments.find? fun text => !ddNames.any fun name => text.startsWith (name ++ "=")
  let badNumber := ["bs", "ibs", "obs", "count", "skip", "seek"].findSome? fun name =>
    (value name).bind fun text => if (sized? text).isNone then some text else none
  let option := arguments.find? (·.startsWith "-")
  match option.map String.toList, wrong, badNumber with
  | some ('-' :: '-' :: name), _, _ => misuse 1 "dd" s!"unrecognized option '--{String.ofList name}'"
  | some ('-' :: letter :: _), _, _ => misuse 1 "dd" s!"invalid option -- '{letter}'"
  | _, some text, _ => misuse 1 "dd" s!"unrecognized operand '{text}'"
  | _, none, some text => refuse "dd" s!"invalid number: '{text}'"
  | _, none, none =>
    let number (name : String) : Option Nat := (value name).bind sized?
    let conversions := ((value "conv").getD "").splitOn ","
    let copy : BlockCopy :=
      { size := max (((number "bs").orElse fun _ => number "ibs").getD 512) 1
        count := number "count"
        skipped := (number "skip").getD 0
        change := fun bytes => conversions.foldl (fun bytes name => conversion name bytes) bytes
        fills := ((value "iflag").getD "").splitOn "," |>.contains "fullblock" }
    let finish (counted : BlockCount) : Program :=
      let records := s!"{counted.full}+{counted.partly} records"
      let unit := if counted.bytes = 1 then "byte" else "bytes"
      let size := s!"{counted.bytes} {unit} copied, 0.0001 s, 1.0 MB/s\n"
      let summary :=
        match value "status" with
        | some "none" => ""
        | some "noxfer" => s!"{records} in\n{records} out\n"
        | _ => s!"{records} in\n{records} out\n" ++ size
      Program.writeText 2 summary fun _ => .exit 0
    let start : Program := copy.run Program.rounds copy.skipped {} finish
    let before := (number "seek").getD 0 * max (((number "bs").orElse fun _ => number "obs").getD 512) 1
    let openOutput : Program :=
      match value "of" with
      | none => start
      | some path =>
        let fresh (there : List UInt8) : Program :=
          .call (.openFile 1 ⟨path⟩ .write) fun
            | .failed fault => refuse "dd" s!"failed to open '{path}': {fault.reason}"
            | _ =>
              writeAll "dd" (there.take before ++ List.replicate (before - there.length) 0) fun _ =>
                copy.run Program.rounds copy.skipped {} fun counted =>
                  let kept := if conversions.contains "notrunc" then there.drop (before + counted.bytes) else []
                  writeAll "dd" kept fun _ => finish counted
        .call (.openFile inputDescriptor ⟨path⟩ .read) fun
          | .failed _ => fresh []
          | _ => Program.readAll inputDescriptor fun there => Program.perform (.close inputDescriptor) fun _ => fresh there
    match value "if" with
    | none => openOutput
    | some path =>
      .call (.openFile 0 ⟨path⟩ .read) fun
        | .failed fault => refuse "dd" s!"failed to open '{path}': {fault.reason}"
        | _ => openOutput

/-- The endings of names in order: letters that count up. -/
def ending (count width : Nat) : String :=
  String.ofList ((List.range width).map fun place => Char.ofNat ('a'.toNat + count / Nat.pow 26 (width - 1 - place) % 26))

def splitTable : OptionTable :=
  { tool := "split", letters := "l:b:a:dn:",
    names := [("lines", 'l'), ("bytes", 'b'), ("number", 'n'), ("suffix-length", 'a'), ("numeric-suffixes", 'd')] }

/-- Puts pieces of an input into files of their own. -/
def split : Tool := withOptions splitTable fun given _ =>
  let width := ((given.value? 'a').bind decimal?).getD 2
  let name (index : Nat) : String :=
    let digits := toString index
    (given.operands[1]?).getD "x" ++
      (if given.has 'd' then String.ofList (List.replicate (width - digits.length) '0') ++ digits else ending index width)
  let rec groups (fuel size : Nat) (bytes : List UInt8) : List (List UInt8) :=
    match fuel with
    | 0 => []
    | fuel + 1 => if bytes.isEmpty then [] else bytes.take size :: groups fuel size (bytes.drop size)
  let rec lineGroups (fuel count : Nat) (lines : List (List UInt8)) : List (List UInt8) :=
    match fuel with
    | 0 => []
    | fuel + 1 => if lines.isEmpty then [] else (lines.take count).flatten :: lineGroups fuel count (lines.drop count)
  let rec put : List (List UInt8 × Nat) → Program
    | [] => .exit 0
    | (bytes, index) :: rest =>
      .call (.openFile 4 ⟨name index⟩ .write) fun
        | .failed fault => refuse "split" s!"{name index}: {fault.reason}"
        | _ => Program.performAll [.write 4 bytes, .close 4] fun _ => put rest
  let wrong (what text : String) : Program := refuse "split" ("invalid number of " ++ what ++ ": '" ++ text ++ "'")
  let cutting (cut : List UInt8 → List (List UInt8)) : Program :=
    contentsOr openWording "split" (given.operands.take 1) fun read clean =>
      if !clean then .exit 1 else put (cut (read.map (·.2)).flatten).zipIdx
  let positive? (text : String) : Option Nat := (sized? text).filter (0 < ·)
  match given.value? 'n', given.value? 'b', given.value? 'l' with
  | some text, _, _ =>
    match positive? text with
    | none => wrong "chunks" text
    | some count =>
      cutting fun bytes =>
        let share := bytes.length / count
        let larger := bytes.length % count
        (List.range count).map fun index =>
          (bytes.drop (index * share + min index larger)).take (if index < larger then share + 1 else share)
  | none, some text, _ =>
    match positive? text with
    | none => wrong "bytes" text
    | some count => cutting fun bytes => groups (bytes.length + 1) count bytes
  | none, none, lines =>
    let text := lines.getD "1000"
    match positive? text with
    | none => wrong "lines" text
    | some count => cutting fun bytes => lineGroups (bytes.length + 1) count (linesOf bytes)

end BuildWatch.Toolbox
