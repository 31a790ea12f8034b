import BuildWatch.Toolbox.Options

/-! Programs that pass their input on, whole or in part. -/

namespace BuildWatch.Toolbox

open Machine

/-- Passes everything on as it comes, and answers whether there was anything to read from. -/
def copyThrough (fuel descriptor : Nat) (next : Bool → Program) : Program :=
  match fuel with
  | 0 => .exit 1
  | fuel + 1 =>
    .call (.read descriptor 65536) fun
      | .bytes (byte :: more) =>
        writeAll "cat" (byte :: more) fun written => if written then copyThrough fuel descriptor next else .exit 1
      | .bytes [] => next true
      | _ => next false

/-- How a text is made visible. -/
structure Showing where
  numbered : Bool := false
  /-- Empty lines get no number. -/
  onlyFilled : Bool := false
  squeezed : Bool := false
  ends : Bool := false
  tabs : Bool := false
  marks : Bool := false

namespace Showing

def isPlain (showing : Showing) : Bool :=
  !(showing.numbered || showing.squeezed || showing.ends || showing.tabs || showing.marks)

/-- A byte that is made visible. -/
def markOf (byte : Nat) : List Char :=
  if 128 ≤ byte then 'M' :: '-' :: low (byte - 128) else low byte
where
  low (byte : Nat) : List Char :=
    if byte < 32 then ['^', Char.ofNat (byte + 64)] else if byte = 127 then ['^', '?'] else [Char.ofNat byte]

def charText (showing : Showing) (c : Char) : List Char :=
  if c = '\t' then (if showing.tabs then ['^', 'I'] else [c]) else if showing.marks then markOf c.toNat else [c]

/-- How many lines there were, and how many empty ones have just been there. -/
structure Progress where
  number : Nat := 0
  empty : Nat := 0
  /-- The line before has not ended. -/
  isInside : Bool := false

def line (showing : Showing) (progress : Progress) (bytes : List UInt8) : Progress × List Char :=
  let ended := bytes.getLast? == some 10
  let text := (ByteText.ofBytes (dropLineFeed bytes)).toList
  let isEmpty := text.isEmpty && ended && !progress.isInside
  let empty := if isEmpty then progress.empty + 1 else 0
  if showing.squeezed && isEmpty && 1 < empty then ({ progress with empty }, [])
  else
    let counts := showing.numbered && !progress.isInside && !(showing.onlyFilled && isEmpty)
    let number := if counts then progress.number + 1 else progress.number
    let front := if counts then (padLeft 6 (toString number)).toList ++ ['\t'] else []
    let back := if ended then (if showing.ends then ['$', '\n'] else ['\n']) else []
    ({ number, empty, isInside := !ended }, front ++ text.flatMap showing.charText ++ back)

def shown' (showing : Showing) (progress : Progress) : List (List UInt8) → Progress × List Char
  | [] => (progress, [])
  | bytes :: rest =>
    let (progress, text) := showing.line progress bytes
    let (progress, later) := shown' showing progress rest
    (progress, text ++ later)

end Showing

def catTable : OptionTable :=
  { tool := "cat", letters := "AbeEnstTuv",
    names := [("show-all", 'A'), ("number-nonblank", 'b'), ("show-ends", 'E'), ("number", 'n'), ("squeeze-blank", 's'),
      ("show-tabs", 'T'), ("show-nonprinting", 'v')] }

def cat : Tool := withOptions catTable fun given _ =>
  let showing : Showing :=
    { numbered := given.has 'n' || given.has 'b'
      onlyFilled := given.has 'b'
      squeezed := given.has 's'
      ends := given.has 'E' || given.has 'e' || given.has 'A'
      tabs := given.has 'T' || given.has 't' || given.has 'A'
      marks := given.has 'v' || given.has 'e' || given.has 't' || given.has 'A' }
  let rec shown (progress : Showing.Progress) : List String → Nat → Program
    | [], code => .exit code
    | path :: rest, code =>
      contents "cat" [path] fun read clean =>
        let (progress, text) := showing.shown' progress (read.flatMap linesOf)
        writeAll "cat" (ByteText.toBytes (String.ofList text)) fun _ => shown progress rest (if clean then code else 1)
  let rec go : List String → Nat → Program
    | [], code => .exit code
    | "-" :: rest, code =>
      copyThrough Program.rounds 0 fun
        | true => go rest code
        | false =>
          let reason := FileError.badDescriptor.reason
          Program.writeText 2 s!"cat: -: {reason}\ncat: closing standard input: {reason}\n" fun _ => go rest 1
    | path :: rest, code =>
      .call (.openFile inputDescriptor ⟨path⟩ .read) fun
        | .failed fault => complain "cat" s!"{path}: {fault.reason}" fun _ => go rest 1
        | _ =>
          copyThrough Program.rounds inputDescriptor fun _ =>
            Program.perform (.close inputDescriptor) fun _ => go rest code
  let paths := if given.operands.isEmpty then ["-"] else given.operands
  if showing.isPlain then go paths 0 else shown {} paths 0

def teeTable : OptionTable :=
  { tool := "tee", letters := "aip", names := [("append", 'a'), ("ignore-interrupts", 'i'), ("output-error", 'p')] }

def tee : Tool := withOptions teeTable fun given _ =>
  let mode : OpenMode := if given.has 'a' then .append else .write
  let rec pass (outputs : List Nat) (code fuel : Nat) : Program :=
    match fuel with
    | 0 => .exit 1
    | fuel + 1 =>
      .call (.read 0 65536) fun
        | .bytes (byte :: more) =>
          Program.performAll (.write 1 (byte :: more) :: outputs.map fun number => .write number (byte :: more)) fun _ =>
            pass outputs code fuel
        | _ => .exit code
  let rec start : List (String × Nat) → List Nat → Nat → Program
    | [], outputs, code => pass outputs.reverse code Program.rounds
    | (path, number) :: rest, outputs, code =>
      .call (.openFile number ⟨path⟩ mode) fun
        | .failed fault => complain "tee" s!"{path}: {fault.reason}" fun _ => start rest outputs 1
        | _ => start rest (number :: outputs) code
  start (given.operands.zipIdx 3) [] 0

/-- A first argument like `-5` stands for an option. -/
def withCount (letter : Char) : List String → List String
  | [] => []
  | argument :: rest =>
    match argument.toList with
    | '-' :: digit :: more =>
      let digits := (digit :: more).takeWhile Char.isDigit
      let letters := (digit :: more).drop digits.length
      if digits.isEmpty then argument :: rest
      else if letters == ['c'] then "-c" :: String.ofList digits :: rest
      else if letters.isEmpty then String.ofList ['-', letter] :: String.ofList digits :: rest
      else argument :: rest
    | _ => argument :: rest

/-- Reads on until there is enough, or until the input ends. -/
def gather (enough : List UInt8 → Bool) (fuel descriptor : Nat) (bytes : List UInt8) (next : List UInt8 → Program) : Program :=
  match fuel with
  | 0 => .exit 1
  | fuel + 1 =>
    if enough bytes then next bytes
    else
      .call (.read descriptor 65536) fun
        | .bytes (byte :: more) => gather enough fuel descriptor (bytes ++ byte :: more) next
        | _ => next bytes

/-- Which part of an input is wanted. -/
structure Part where
  byBytes : Bool := false
  count : Nat := 10
  /-- Counts from the other end than usual. -/
  turned : Bool := false

def partTable (tool : String) : OptionTable :=
  { tool, letters := "n:c:qvzfF", names := [("lines", 'n'), ("bytes", 'c'), ("quiet", 'q'), ("silent", 'q'), ("verbose", 'v'),
    ("zero-terminated", 'z'), ("follow", 'f')] }

/-- The part that options ask for; a sign turns the count. -/
def partOf (turn : Char) (given : Given) : Except String Part :=
  match given.last? "nc" with
  | none => .ok {}
  | some letter =>
    let text := (given.value? letter).getD ""
    let turned := text.toList.head? == some turn
    let body := if turned || text.startsWith "-" || text.startsWith "+" then String.ofList (text.toList.drop 1) else text
    match sized? body with
    | some count => .ok { byBytes := letter = 'c', count, turned }
    | none => .error ((if letter = 'c' then "invalid number of bytes: '" else "invalid number of lines: '") ++ text ++ "'")

namespace Part

def first (part : Part) (bytes : List UInt8) : List UInt8 :=
  if part.byBytes then (if part.turned then bytes.take (bytes.length - part.count) else bytes.take part.count)
  else
    let lines := linesOf bytes
    (if part.turned then lines.take (lines.length - part.count) else lines.take part.count).flatten

def last (part : Part) (bytes : List UInt8) : List UInt8 :=
  if part.byBytes then (if part.turned then bytes.drop (part.count - 1) else bytes.drop (bytes.length - part.count))
  else
    let lines := linesOf bytes
    (if part.turned then lines.drop (part.count - 1) else lines.drop (lines.length - part.count)).flatten

/-- The first part can be told from these bytes. -/
def isIn (part : Part) (bytes : List UInt8) : Bool :=
  !part.turned && (if part.byBytes then part.count ≤ bytes.length else part.count ≤ bytes.count 10)

end Part

/-- The line above an input, if there are several. -/
def heading (given : Given) (isFirst : Bool) (path : String) : List UInt8 :=
  if (1 < given.operands.length && !given.has 'q') || given.has 'v' then
    let name := if path = "-" then "standard input" else path
    ByteText.toBytes ((if isFirst then "" else "\n") ++ s!"==> {name} <==\n")
  else []

/-- Shows a part of each input. -/
def showParts (tool : String) (enough : List UInt8 → Bool) (taken : List UInt8 → List UInt8) (given : Given) : Program :=
  go true 0 (if given.operands.isEmpty then ["-"] else given.operands)
where
  go (isFirst : Bool) (code : Nat) : List String → Program
    | [] => .exit code
    | path :: rest =>
      let shown' (descriptor : Nat) : Program :=
        gather enough Program.rounds descriptor [] fun bytes =>
          let part := taken bytes
          let calls : List Call := if enough bytes then [.giveBack descriptor (bytes.drop part.length)] else []
          Program.performAll calls fun _ =>
            writeAll tool (heading given isFirst path ++ part) fun written =>
              Program.performAll (if descriptor = 0 then [] else [.close descriptor]) fun _ =>
                if written then go false code rest else .exit 1
      if path = "-" then shown' 0
      else
        .call (.openFile inputDescriptor ⟨path⟩ .read) fun
          | .failed .isDirectory =>
            writeAll tool (heading given isFirst path) fun _ =>
              complain tool (openWording path .isDirectory) fun _ => go false 1 rest
          | .failed fault => complain tool (openWording path fault) fun _ => go isFirst 1 rest
          | _ => shown' inputDescriptor

/-- The first lines or bytes of each input. An input may be without an end. -/
def head : Tool := fun arguments =>
  withOptions (partTable "head") (fun given _ =>
    match partOf '-' given with
    | .error fault => refuse "head" fault
    | .ok part => showParts "head" part.isIn part.first given) (withCount 'n' arguments)

def tail : Tool := fun arguments =>
  let arguments :=
    match arguments with
    | [] => []
    | first :: rest =>
      if first.startsWith "+" && 1 < first.length && (first.toList.drop 1).all Char.isDigit then "-n" :: first :: rest
      else withCount 'n' (first :: rest)
  withOptions (partTable "tail") (fun given _ =>
    match partOf '+' given with
    | .error fault => refuse "tail" fault
    | .ok part => showParts "tail" (fun _ => false) part.last given) arguments

def yes : Tool := withOptions { tool := "yes", letters := "", inOrder := true } fun given _ =>
  let line := ByteText.toBytes ((if given.operands.isEmpty then "y" else " ".intercalate given.operands) ++ "\n")
  let block := (List.replicate 512 line).flatten
  let rec repeated (fuel : Nat) : Program :=
    match fuel with
    | 0 => .exit 0
    | fuel + 1 =>
      writeAll "yes" block fun written => if written then Program.perform .pause fun _ => repeated fuel else .exit 1
  repeated Program.rounds

end BuildWatch.Toolbox
