import BuildWatch.Toolbox.Passing

/-! Programs that write bytes down in other forms: as numbers, as characters, or in a base of sixty-four. -/

namespace BuildWatch.Toolbox

open Machine

/-- How the bytes of a dump are written. -/
inductive DumpForm where
  | char
  | named
  | numbers (base size : Nat) (signed : Bool)
  deriving DecidableEq, Inhabited

namespace DumpForm

def size : DumpForm → Nat
  | numbers _ size _ => size
  | _ => 1

/-- The columns of a field, without the blank in front of it. -/
def width : DumpForm → Nat
  | char => 3
  | named => 3
  | numbers base size signed =>
    if base = 16 then 2 * size
    else if base = 8 then (8 * size + 2) / 3
    else
      let digits := match size with
        | 1 => 3
        | 2 => 5
        | 4 => 10
        | _ => 20
      if signed && size < 8 then digits + 1 else digits

/-- The names of the first characters. -/
def controlNames : List String :=
  ["nul", "soh", "stx", "etx", "eot", "enq", "ack", "bel", "bs", "ht", "nl", "vt", "ff", "cr", "so", "si", "dle", "dc1", "dc2",
    "dc3", "dc4", "nak", "syn", "etb", "can", "em", "sub", "esc", "fs", "gs", "rs", "us", "sp"]

def filled (width : Nat) (digits : List Char) : String := String.ofList (List.replicate (width - digits.length) '0' ++ digits)

def charText (byte : Nat) : String :=
  match byte with
  | 0 => "\\0"
  | 7 => "\\a"
  | 8 => "\\b"
  | 9 => "\\t"
  | 10 => "\\n"
  | 11 => "\\v"
  | 12 => "\\f"
  | 13 => "\\r"
  | byte => if 32 ≤ byte && byte < 127 then String.singleton (Char.ofNat byte) else filled 3 (Nat.toDigits 8 byte)

/-- The text of a field. Of several bytes, the first one counts least. -/
def text (form : DumpForm) (bytes : List UInt8) : String :=
  let value := bytes.foldr (fun byte value => value * 256 + byte.toNat) 0
  match form with
  | char => charText value
  | named =>
    let value := value % 128
    (controlNames[value]?).getD (if value = 127 then "del" else String.singleton (Char.ofNat value))
  | numbers base size signed =>
    if base = 10 then
      let limit := Nat.pow 256 size
      if signed && limit ≤ 2 * value then "-" ++ toString (limit - value) else toString value
    else filled form.width (Nat.toDigits base value)

/-- The forms that are named in a row, and whether the characters are shown at the end of a line. -/
def ofText? (fuel : Nat) (text : List Char) : Option (List (DumpForm × Bool)) :=
  match fuel, text with
  | 0, _ => none
  | _, [] => some []
  | fuel + 1, letter :: rest =>
    let isNumeric := "doux".toList.contains letter
    let digits := if isNumeric then rest.takeWhile Char.isDigit else []
    let (size, rest) :=
      if !digits.isEmpty then (Ascii.number 10 digits, rest.drop digits.length)
      else
        match isNumeric, rest with
        | true, 'C' :: rest => (1, rest)
        | true, 'S' :: rest => (2, rest)
        | true, 'I' :: rest => (4, rest)
        | true, 'L' :: rest => (8, rest)
        | _, rest => (4, rest)
    let (shows, rest) :=
      match rest with
      | 'z' :: rest => (true, rest)
      | rest => (false, rest)
    let form : Option DumpForm :=
      if !([1, 2, 4, 8].contains size) then none
      else
        match letter with
        | 'a' => some named
        | 'c' => some char
        | 'd' => some (numbers 10 size true)
        | 'o' => some (numbers 8 size false)
        | 'u' => some (numbers 10 size false)
        | 'x' => some (numbers 16 size false)
        | _ => none
    match form with
    | none => none
    | some form => (ofText? fuel rest).map fun forms => (form, shows) :: forms

end DumpForm

/-- A dump: its forms, how many bytes stand in a line, and in which base places are written. -/
structure Dump where
  forms : List (DumpForm × Bool)
  width : Nat := 16
  base : Option Nat := some 8
  /-- Lines that are like the one before are shown, too. -/
  showsAll : Bool := false

namespace Dump

def placeWidth (dump : Dump) : Nat := if dump.base = some 16 then 6 else 7

def place (dump : Dump) (place : Nat) : String :=
  match dump.base with
  | none => ""
  | some base => DumpForm.filled dump.placeWidth (Nat.toDigits base place)

def groups (fuel size : Nat) (bytes : List UInt8) : List (List UInt8) :=
  match fuel with
  | 0 => []
  | fuel + 1 => if bytes.isEmpty then [] else bytes.take size :: groups fuel size (bytes.drop size)

/-- The fields of a line in one form. All forms take as much room as the widest one. -/
def fields (dump : Dump) (form : DumpForm) (bytes : List UInt8) : String :=
  let room (form : DumpForm) : Nat := (dump.width / form.size) * (form.width + 1)
  let widest := (dump.forms.map fun (form, _) => room form).foldl max 0
  let count := dump.width / form.size
  let extra := widest - room form
  let pieces := (groups bytes.length form.size bytes).zipIdx.map fun (group, index) =>
    let before := extra * (count - index) / count
    let after := extra * (count - index - 1) / count
    padLeft (form.width + 1 + (before - after)) (form.text group)
  String.join pieces

def shownChars (bytes : List UInt8) : String :=
  String.ofList (bytes.map fun byte => if 32 ≤ byte && byte < 127 then Char.ofNat byte.toNat else '.')

def line (dump : Dump) (start : Nat) (bytes : List UInt8) : String :=
  String.join (dump.forms.zipIdx.map fun ((form, shows), index) =>
    let front :=
      if index = 0 then dump.place start
      else if dump.base.isNone then ""
      else String.ofList (List.replicate dump.placeWidth ' ')
    let text := dump.fields form bytes
    let missing := (dump.width - bytes.length) / form.size * (form.width + 1)
    let behind := if shows then String.ofList (List.replicate missing ' ') ++ "  >" ++ shownChars bytes ++ "<" else ""
    front ++ text ++ behind ++ "\n")

/-- The lines of a dump. A line that is like the one before is only marked. -/
def lines (dump : Dump) (start : Nat) (before : Option (List UInt8)) (marked : Bool) : List (List UInt8) → List String
  | [] => if dump.base.isSome then [dump.place start ++ "\n"] else []
  | bytes :: rest =>
    let isSame := !dump.showsAll && before == some bytes && !rest.isEmpty
    let front := if !isSame then [dump.line start bytes] else if marked then [] else ["*\n"]
    front ++ lines dump (start + bytes.length) (some bytes) isSame rest

def text (dump : Dump) (start : Nat) (bytes : List UInt8) : String :=
  String.join (dump.lines start none false (groups bytes.length dump.width bytes))

end Dump

def odTable : OptionTable :=
  { tool := "od", letters := "A:j:N:t:vw::abcdDoOxXils",
    names := [("address-radix", 'A'), ("skip-bytes", 'j'), ("read-bytes", 'N'), ("format", 't'), ("output-duplicates", 'v'),
      ("width", 'w')] }

/-- The forms that an option stands for. -/
def formOf (letter : Char) (text : String) : Option (Except String (List (DumpForm × Bool))) :=
  let one (form : DumpForm) : Option (Except String (List (DumpForm × Bool))) := some (.ok [(form, false)])
  match letter with
  | 't' =>
    match DumpForm.ofText? (text.length + 1) text.toList with
    | some forms => some (.ok forms)
    | none => some (.error ("invalid character '" ++ String.ofList (text.toList.take 1) ++ "' in type string '" ++ text ++ "'"))
  | 'a' => one .named
  | 'b' => one (.numbers 8 1 false)
  | 'c' => one .char
  | 'd' => one (.numbers 10 2 false)
  | 'D' => one (.numbers 10 4 false)
  | 'o' => one (.numbers 8 2 false)
  | 'O' => one (.numbers 8 4 false)
  | 'x' => one (.numbers 16 2 false)
  | 'X' => one (.numbers 16 4 false)
  | 'i' => one (.numbers 10 4 true)
  | 'l' => one (.numbers 10 8 true)
  | 's' => one (.numbers 10 2 true)
  | _ => none

def od : Tool := withOptions odTable fun given _ =>
  match (given.options.filterMap fun (letter, text) => formOf letter text).mapM (fun forms => forms) with
  | .error fault => refuse "od" fault
  | .ok forms =>
    let forms := if forms.isEmpty then [(DumpForm.numbers 8 2 false, false)] else forms.flatten
    let width := if given.has 'w' then ((given.value? 'w').bind decimal?).getD 32 else 16
    let base :=
      match given.value? 'A' with
      | some "n" => none
      | some "x" => some 16
      | some "d" => some 10
      | _ => some 8
    let dump : Dump := { forms, width := max width 1, base, showsAll := given.has 'v' }
    let skipped := ((given.value? 'j').bind sized?).getD 0
    let limit := (given.value? 'N').bind sized?
    contents "od" given.operands fun read clean =>
      let bytes := read.flatten
      if bytes.length < skipped then refuse "od" "cannot skip past end of combined input"
      else
        let bytes := bytes.drop skipped
        let bytes := match limit with
          | some count => bytes.take count
          | none => bytes
        if read.isEmpty then .exit 1 else writeText "od" (dump.text skipped bytes) (if clean then 0 else 1)

namespace SixtyFour

def digits : List Char := "ABCDEFGHIJKLMNOPQRSTUVWXYZabcdefghijklmnopqrstuvwxyz0123456789+/".toList

def digit (value : Nat) : Char := digits.getD (value % 64) '='

def encode : List UInt8 → List Char
  | a :: b :: c :: rest =>
    let value := (a.toNat * 256 + b.toNat) * 256 + c.toNat
    digit (value / 262144) :: digit (value / 4096) :: digit (value / 64) :: digit value :: encode rest
  | [a, b] =>
    let value := (a.toNat * 256 + b.toNat) * 256
    [digit (value / 262144), digit (value / 4096), digit (value / 64), '=']
  | [a] =>
    let value := a.toNat * 65536
    [digit (value / 262144), digit (value / 4096), '=', '=']
  | [] => []

def value? (c : Char) : Option Nat := digits.idxOf? c

/-- The bytes that digits stand for, and whether all of them stand for some. -/
def decode : List Char → List UInt8 × Bool
  | a :: b :: c :: d :: rest =>
    match value? a, value? b, value? c, value? d with
    | some a, some b, some c, some d =>
      let value := ((a * 64 + b) * 64 + c) * 64 + d
      let (bytes, clean) := decode rest
      (UInt8.ofNat (value / 65536) :: UInt8.ofNat (value / 256 % 256) :: UInt8.ofNat (value % 256) :: bytes, clean)
    | some a, some b, some e, none =>
      let value := (a * 64 + b) * 64 + e
      if d = '=' then
        let (bytes, clean) := decode rest
        (UInt8.ofNat (value / 1024) :: UInt8.ofNat (value / 4 % 256) :: bytes, clean)
      else ([UInt8.ofNat (value / 1024), UInt8.ofNat (value / 4 % 256)], false)
    | some a, some b, none, _ =>
      if c = '=' && d = '=' then
        let (bytes, clean) := decode rest
        (UInt8.ofNat ((a * 64 + b) / 16) :: bytes, clean)
      else ([UInt8.ofNat ((a * 64 + b) / 16)], false)
    | _, _, _, _ => ([], false)
  | [] => ([], true)
  | [a, b, c] =>
    match value? a, value? b, value? c with
    | some a, some b, some c =>
      let value := (a * 64 + b) * 64 + c
      ([UInt8.ofNat (value / 1024), UInt8.ofNat (value / 4 % 256)], false)
    | some a, some b, none => ([UInt8.ofNat ((a * 64 + b) / 16)], false)
    | _, _, _ => ([], false)
  | [a, b] =>
    match value? a, value? b with
    | some a, some b => ([UInt8.ofNat ((a * 64 + b) / 16)], false)
    | _, _ => ([], false)
  | [_] => ([], false)

def wrapped (fuel width : Nat) (text : List Char) : List Char :=
  match fuel with
  | 0 => []
  | fuel + 1 =>
    if text.isEmpty then []
    else if width = 0 then text
    else text.take width ++ '\n' :: wrapped fuel width (text.drop width)

end SixtyFour

def base64Table : OptionTable :=
  { tool := "base64", letters := "diw:", names := [("decode", 'd'), ("ignore-garbage", 'i'), ("wrap", 'w')] }

def base64 : Tool := withOptions base64Table fun given _ =>
  match given.operands, ((given.value? 'w').getD "76", ((given.value? 'w').map decimal?).getD (some 76)) with
  | _ :: extra :: _, _ => extraOperand "base64" extra
  | _, (text, none) => refuse "base64" s!"invalid wrap size: '{text}'"
  | paths, (_, some width) =>
    contents "base64" paths fun read clean =>
      if !clean then .exit 1
      else
        let bytes := read.flatten
        if given.has 'd' then
          let text := (ByteText.ofBytes bytes).toList.filter fun c => c != '\n'
          let text := if given.has 'i' then text.filter fun c => (SixtyFour.value? c).isSome || c = '=' else text
          let (bytes, fine) := SixtyFour.decode text
          writeAll "base64" bytes fun _ => if fine then .exit 0 else refuse "base64" "invalid input"
        else
          let text := SixtyFour.encode bytes
          writeText "base64" (String.ofList (SixtyFour.wrapped (text.length + 1) width text)) 0

end BuildWatch.Toolbox
