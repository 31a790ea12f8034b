import BuildWatch.Toolbox.Options

/-! Programs that count: lines, words and characters of a text, numbers in a row, and the lines themselves. -/

namespace BuildWatch.Toolbox

open Machine

def isBlankByte (byte : UInt8) : Bool := byte = 32 || (9 ≤ byte && byte ≤ 13)

def countWords (bytes : List UInt8) : Nat :=
  (bytes.foldl (fun (count, inside) byte =>
    if isBlankByte byte then (count, false) else (if inside then count else count + 1, true)) (0, false)).1

/-- The width of the widest line, where a tab goes on to a multiple of eight. -/
def widestLine (bytes : List UInt8) : Nat :=
  let (widest, width) := bytes.foldl (fun (widest, width) byte =>
    if byte = 10 || byte = 12 || byte = 13 then (max widest width, 0)
    else if byte = 9 then (widest, width + (8 - width % 8))
    else if 32 ≤ byte && byte < 127 then (widest, width + 1)
    else (widest, width)) ((0, 0) : Nat × Nat)
  max widest width

/-- Lines, words, characters, bytes and the widest line. -/
structure Tally where
  lines : Nat := 0
  words : Nat := 0
  bytes : Nat := 0
  width : Nat := 0

namespace Tally

def ofBytes (bytes : List UInt8) : Tally :=
  { lines := bytes.count 10, words := countWords bytes, bytes := bytes.length, width := widestLine bytes }

def add (a b : Tally) : Tally :=
  { lines := a.lines + b.lines, words := a.words + b.words, bytes := a.bytes + b.bytes, width := max a.width b.width }

end Tally

def wcTable : OptionTable :=
  { tool := "wc", letters := "clLmw",
    names := [("bytes", 'c'), ("chars", 'm'), ("lines", 'l'), ("max-line-length", 'L'), ("words", 'w')] }

def wc : Tool := withOptions wcTable fun given _ =>
  let isBare := given.options.isEmpty
  let columns (tally : Tally) : List Nat :=
    (if isBare || given.has 'l' then [tally.lines] else []) ++ (if isBare || given.has 'w' then [tally.words] else []) ++
      (if given.has 'm' then [tally.bytes] else []) ++ (if isBare || given.has 'c' then [tally.bytes] else []) ++
      if given.has 'L' then [tally.width] else []
  let line (width : Nat) (tally : Tally) (name : Option String) : String :=
    " ".intercalate ((columns tally).map (fun number => padLeft width (toString number)) ++ name.toList) ++ "\n"
  let isSingle := (columns {}).length = 1
  match given.operands with
  | [] =>
    .call (.storedSize 0) fun stored =>
      Program.readAll 0 fun bytes =>
        let width :=
          match stored with
          | .number size => (toString size).length
          | _ => 7
        writeText "wc" (line (if isSingle then 1 else width) (Tally.ofBytes bytes) none) 0
  | paths =>
    measure paths 0 1 fun width =>
      let width := if isSingle && paths.length = 1 then 1 else width
      let rec go : List String → Tally → List String → Nat → Program
        | [], total, shown, code =>
          let last := if 1 < paths.length then [line width total (some "total")] else []
          writeText "wc" (String.join (shown.reverse ++ last)) code
        | path :: rest, total, shown, code =>
          let count (bytes : List UInt8) : Program :=
            let tally := Tally.ofBytes bytes
            go rest (total.add tally) (line width tally (some path) :: shown) code
          if path = "-" then Program.readAll 0 count
          else
            .call (.openFile inputDescriptor ⟨path⟩ .read) fun
              | .failed .isDirectory =>
                complain "wc" s!"{path}: {FileError.isDirectory.reason}" fun _ =>
                  go rest total (line width {} (some path) :: shown) 1
              | .failed fault => complain "wc" s!"{path}: {fault.reason}" fun _ => go rest total shown 1
              | _ => Program.readAll inputDescriptor fun bytes => Program.perform (.close inputDescriptor) fun _ => count bytes
      go paths {} [] 0
where
  /-- How wide numbers can get, given the sizes of files. -/
  measure : List String → Nat → Nat → (Nat → Program) → Program
    | [], total, least, next => next (max least (toString total).length)
    | "-" :: rest, total, least, next =>
      .call (.storedSize 0) fun
        | .number size => measure rest (total + size) least next
        | _ => measure rest total 7 next
    | path :: rest, total, least, next =>
      .call (.inspect ⟨path⟩) fun
        | .kind (.file size _) => measure rest (total + size) least next
        | .kind _ => measure rest total 7 next
        | _ => measure rest total least next

def nlTable : OptionTable :=
  { tool := "nl", letters := "b:d:f:h:i:l:n:ps:v:w:",
    names := [("body-numbering", 'b'), ("line-increment", 'i'), ("number-format", 'n'), ("number-separator", 's'),
      ("starting-line-number", 'v'), ("number-width", 'w')] }

/-- Numbers lines; empty ones only if that is asked for. -/
def nl : Tool := withOptions nlTable fun given _ =>
  let number (letter : Char) (standard : Int) : Int := ((given.value? letter).bind integer?).getD standard
  let style := (given.value? 'b').getD "t"
  let width := (number 'w' 6).toNat
  let separator := (given.value? 's').getD "\t"
  let format := (given.value? 'n').getD "rn"
  let figure (value : Int) : String :=
    let digits := toString value
    if format = "ln" then padRight width digits
    else if format = "rz" then String.ofList (List.replicate (width - digits.length) '0') ++ digits
    else padLeft width digits
  let rec go (value : Int) : List String → List String
    | [] => []
    | text :: rest =>
      if style = "a" || (style = "t" && !text.isEmpty) then
        (figure value ++ separator ++ text ++ "\n") :: go (value + number 'i' 1) rest
      else (String.ofList (List.replicate (width + separator.length) ' ') ++ text ++ "\n") :: go value rest
  contents "nl" given.operands fun read clean =>
    writeText "nl" (String.join (go (number 'v' 1) (textLines read.flatten))) (if clean then 0 else 1)

end BuildWatch.Toolbox
