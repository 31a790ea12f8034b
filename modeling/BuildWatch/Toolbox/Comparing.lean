import BuildWatch.Toolbox.Paths

/-! Programs that compare files: byte by byte, or line by line. -/

namespace BuildWatch.Toolbox

open Machine

/-- The two inputs of a comparison, or what is said about those that cannot be read. -/
def bothContents (tool : String) (first second : String) (next : List UInt8 → List UInt8 → Program) : Program :=
  contents tool [first] fun a cleanFirst =>
    contents tool [second] fun b cleanSecond =>
      if cleanFirst && cleanSecond then next a.flatten b.flatten else .exit 2

/-- Where two texts differ first: the number of equal bytes, and of the lines in them. -/
def agreement : List UInt8 → List UInt8 → Nat × Nat
  | a :: first, b :: second =>
    if a = b then
      let (bytes, lines) := agreement first second
      (bytes + 1, if a = 10 then lines + 1 else lines)
    else (0, 0)
  | _, _ => (0, 0)

def cmpTable : OptionTable :=
  { tool := "cmp", letters := "blsi:n:", failure := 2,
    names := [("print-bytes", 'b'), ("verbose", 'l'), ("quiet", 's'), ("silent", 's'), ("bytes", 'n')] }

def octalByte (byte : UInt8) : String := padLeft 3 (String.ofList (Nat.toDigits 8 byte.toNat))

/-- Every byte in which two texts differ, with its place. -/
def differences (place : Nat) : List UInt8 → List UInt8 → List (Nat × UInt8 × UInt8)
  | a :: first, b :: second =>
    let rest := differences (place + 1) first second
    if a = b then rest else (place, a, b) :: rest
  | _, _ => []

def cmp : Tool := withOptions cmpTable fun given _ =>
  match given.operands with
  | [] => refuseWith 2 "cmp" ("missing operand after 'cmp'\ncmp: " ++ hint "cmp")
  | first :: rest =>
    let second := rest.headD "-"
    oneContent "cmp" 2 (given.has 's') first fun a => oneContent "cmp" 2 (given.has 's') second fun b =>
      let (a, b) :=
        match (given.value? 'n').bind decimal? with
        | some count => (a.take count, b.take count)
        | none => (a, b)
      let (bytes, lines) := agreement a b
      let shorter := if a.length < b.length then first else second
      let size := min a.length b.length
      if a == b then .exit 0
      else if given.has 's' then .exit 1
      else if given.has 'l' then
        let width := (toString (max a.length b.length)).length
        let shown := (differences 1 a b).map fun (place, x, y) => padLeft width (toString place) ++ s!" {octalByte x} {octalByte y}"
        writeAll "cmp" (ByteText.toBytes (String.join (shown.map (· ++ "\n")))) fun _ =>
          if a.length = b.length then .exit 1
          else refuse "cmp" s!"EOF on {shorter} after byte {size}"
      else if bytes = size then
        if size = 0 then refuse "cmp" s!"EOF on {shorter} which is empty"
        else
          let ends := (a.drop (size - 1)).head? == some 10
          let place := if ends then s!"line {lines}" else s!"in line {lines + 1}"
          refuse "cmp" s!"EOF on {shorter} after byte {size}, {place}"
      else if given.has 'b' then
        match (a.drop bytes).head?, (b.drop bytes).head? with
        | some x, some y =>
          let shown (byte : UInt8) : String := octalByte byte ++ " " ++ String.singleton (Char.ofNat byte.toNat)
          writeLines "cmp" [s!"{first} {second} differ: byte {bytes + 1}, line {lines + 1} is {shown x} {shown y}"] 1
        | _, _ => .exit 1
      else writeLines "cmp" [s!"{first} {second} differ: char {bytes + 1}, line {lines + 1}"] 1

/-- A difference: lines that are left out, and lines that are put in, from their places on. -/
structure Hunk where
  oldStart : Nat
  old : List String
  newStart : Nat
  new : List String
  deriving Inhabited

namespace Hunk

/-- The length of a longest common part of all tails of a list and one other list. -/
def lengths (key : String → String) (first : String) (second : List String) (below : List Nat) : List Nat :=
  match second, below with
  | [], _ => [0]
  | line :: rest, under :: after =>
    let right := lengths key first rest after
    let best := if key first = key line then after.headD 0 + 1 else max under (right.headD 0)
    best :: right
  | _, [] => [0]

/-- The rows of those lengths, longest tail first. -/
def table (key : String → String) (first second : List String) : List (List Nat) :=
  match first with
  | [] => [List.replicate (second.length + 1) 0]
  | line :: rest =>
    let below := table key rest second
    lengths key line second (below.headD []) :: below

/-- Puts a line to the differences in front of which it stands. -/
def addOld (place newPlace : Nat) (line : String) (hunks : List Hunk) : List Hunk :=
  match hunks with
  | hunk :: rest =>
    if hunk.oldStart = place + 1 && hunk.newStart = newPlace then { hunk with oldStart := place, old := line :: hunk.old } :: rest
    else ⟨place, [line], newPlace, []⟩ :: hunks
  | [] => [⟨place, [line], newPlace, []⟩]

def addNew (place newPlace : Nat) (line : String) (hunks : List Hunk) : List Hunk :=
  match hunks with
  | hunk :: rest =>
    if hunk.oldStart = place && hunk.newStart = newPlace + 1 then { hunk with newStart := newPlace, new := line :: hunk.new } :: rest
    else ⟨place, [], newPlace, [line]⟩ :: hunks
  | [] => [⟨place, [], newPlace, [line]⟩]

def walk (key : String → String) (fuel place newPlace : Nat) (first second : List String) (rows : List (List Nat)) : List Hunk :=
  match fuel, first, second with
  | 0, _, _ => []
  | _, [], [] => []
  | fuel + 1, a :: first', [] => addOld place newPlace a (walk key fuel (place + 1) newPlace first' [] (rows.drop 1))
  | fuel + 1, [], b :: second' => addNew place newPlace b (walk key fuel place (newPlace + 1) [] second' (rows.map (·.drop 1)))
  | fuel + 1, a :: first', b :: second' =>
    let under := ((rows.drop 1).headD []).headD 0
    let right := ((rows.headD []).drop 1).headD 0
    if key a = key b then walk key fuel (place + 1) (newPlace + 1) first' second' ((rows.drop 1).map (·.drop 1))
    else if right ≤ under then addOld place newPlace a (walk key fuel (place + 1) newPlace first' (b :: second') (rows.drop 1))
    else addNew place newPlace b (walk key fuel place (newPlace + 1) (a :: first') second' (rows.map (·.drop 1)))

def ofLines (key : String → String) (first second : List String) : List Hunk :=
  walk key (first.length + second.length + 1) 0 0 first second (table key first second)

/-- The lines from one place on, as they are named. -/
def span (start count : Nat) : String :=
  if count = 0 then toString start else if count = 1 then toString (start + 1) else s!"{start + 1},{start + count}"

def letter (hunk : Hunk) : String := if hunk.old.isEmpty then "a" else if hunk.new.isEmpty then "d" else "c"

/-- A line behind a mark. The last line of a file may have no end. -/
def marked (mark line : String) : String :=
  if line.endsWith "\n" then mark ++ line else mark ++ line ++ "\n\\ No newline at end of file\n"

def text (hunk : Hunk) : String :=
  span hunk.oldStart hunk.old.length ++ hunk.letter ++ span hunk.newStart hunk.new.length ++ "\n" ++
    String.join (hunk.old.map (marked "< ")) ++ (if hunk.letter = "c" then "---\n" else "") ++
    String.join (hunk.new.map (marked "> "))

/-- Differences with lines around them, near ones together. -/
def gather (context : Nat) : List Hunk → List (List Hunk)
  | [] => []
  | hunk :: rest =>
    match gather context rest with
    | (next :: more) :: groups =>
      if next.oldStart ≤ hunk.oldStart + hunk.old.length + 2 * context then (hunk :: next :: more) :: groups
      else [hunk] :: (next :: more) :: groups
    | groups => [hunk] :: groups

def unifiedSpan (start count : Nat) : String :=
  if count = 1 then toString (start + 1) else if count = 0 then s!"{start},0" else s!"{start + 1},{count}"

def unifiedBody (lines : List String) (place stop : Nat) : List Hunk → List String
  | [] => ((lines.drop place).take (stop - place)).map (marked " ")
  | hunk :: rest =>
    ((lines.drop place).take (hunk.oldStart - place)).map (marked " ") ++ hunk.old.map (marked "-") ++ hunk.new.map (marked "+") ++
      unifiedBody lines (hunk.oldStart + hunk.old.length) stop rest

def unified (context : Nat) (lines : List String) (hunks : List Hunk) : String :=
  String.join ((gather context hunks).map fun group =>
    match group, group.getLast? with
    | first :: _, some last =>
      let start := first.oldStart - context
      let stop := min lines.length (last.oldStart + last.old.length + context)
      let newStart := first.newStart - (first.oldStart - start)
      let added := group.foldl (fun count hunk => count + hunk.new.length) 0
      let removed := group.foldl (fun count hunk => count + hunk.old.length) 0
      "@@ -" ++ unifiedSpan start (stop - start) ++ " +" ++ unifiedSpan newStart (stop - start - removed + added) ++ " @@\n" ++
        String.join (unifiedBody lines start stop group)
    | _, _ => "")

end Hunk

def diffTable : OptionTable :=
  { tool := "diff", letters := "qsiwbBuU::acrNt", failure := 2,
    names := [("brief", 'q'), ("report-identical-files", 's'), ("ignore-case", 'i'), ("ignore-all-space", 'w'),
      ("ignore-space-change", 'b'), ("unified", 'u'), ("text", 'a')] }

/-- A line as it counts when lines are compared. -/
def lineKey (given : Given) (line : String) : String :=
  let text := if given.has 'w' then String.ofList (line.toList.filter fun c => !Ascii.isSpace c) else line
  let text := if given.has 'b' then " ".intercalate ((text.splitOn " ").filter (!·.isEmpty)) else text
  if given.has 'i' then text.map Char.toLower else text

def diff : Tool := withOptions diffTable fun given _ =>
  let misused (text : String) : Program := Program.writeText 2 ("diff: " ++ text ++ "\ndiff: " ++ hint "diff" ++ "\n") fun _ => .exit 2
  match given.operands with
  | [] => misused "missing operand after 'diff'"
  | [first] => misused s!"missing operand after '{first}'"
  | _ :: _ :: extra :: _ => misused s!"extra operand '{extra}'"
  | [first, second] =>
    landed first second fun second =>
      landed second first fun first =>
        bothContents "diff" first second fun a b =>
          let lines (bytes : List UInt8) : List String := (linesOf bytes).map ByteText.ofBytes
          let hunks := Hunk.ofLines (lineKey given) (lines a) (lines b)
          if hunks.isEmpty then
            if given.has 's' then writeLines "diff" [s!"Files {first} and {second} are identical"] 0 else .exit 0
          else if given.has 'q' then writeLines "diff" [s!"Files {first} and {second} differ"] 1
          else if given.has 'u' || given.has 'U' then
            let context := ((given.value? 'U').bind decimal?).getD 3
            writeText "diff" (s!"--- {first}\n+++ {second}\n" ++ Hunk.unified context (lines a) hunks) 1
          else writeText "diff" (String.join (hunks.map Hunk.text)) 1
where
  /-- A directory stands for the file in it that has the name of the other one. -/
  landed (other path : String) (next : String → Program) : Program :=
    if path = "-" then next path
    else
      .call (.inspect ⟨path⟩) fun
        | .kind .directory => next (path ++ "/" ++ String.ofList (lastName other.toList))
        | _ => next path

end BuildWatch.Toolbox
