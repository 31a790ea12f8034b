import BuildWatch.Text.ByteText
import BuildWatch.Text.Layout

/-! Formatted output of a shell: escapes, and the conversions of a format that is used again as long as
arguments are left. All text is bytes. -/

namespace BuildWatch.Shell

def byteChar (value : Nat) : Char := Char.ofNat (value % 256)

def octalChar (digits : List Char) : Char := byteChar (Ascii.number 8 digits)

def simpleEscape? : Char → Option Char
  | 'a' => some '\x07'
  | 'b' => some '\x08'
  | 'e' => some '\x1b'
  | 'f' => some '\x0c'
  | 'n' => some '\n'
  | 'r' => some '\r'
  | 't' => some '\t'
  | 'v' => some '\x0b'
  | '\\' => some '\\'
  | _ => none

/-- Text with its escapes carried out, as `echo` has them: an octal escape begins with a zero. Answers
also whether output ends here for good. -/
def echoed (fuel : Nat) (text : List Char) : List Char × Bool :=
  match fuel, text with
  | 0, _ => ([], false)
  | _, [] => ([], false)
  | fuel + 1, '\\' :: c :: rest =>
    let go (front : List Char) (rest : List Char) : List Char × Bool :=
      let (behind, ended) := echoed fuel rest
      (front ++ behind, ended)
    if c = 'c' then ([], true)
    else if c = '0' then
      let digits := (rest.take 3).takeWhile Ascii.isOctal
      go [octalChar digits] (rest.drop digits.length)
    else
      match simpleEscape? c with
      | some plain => go [plain] rest
      | none => go ['\\', c] rest
  | fuel + 1, c :: rest =>
    let (behind, ended) := echoed fuel rest
    (c :: behind, ended)

/-- Text with the escapes of `echo`, of which octal ones need no zero. -/
def unescaped (fuel : Nat) (text : List Char) : List Char × Bool :=
  match fuel, text with
  | 0, _ => ([], false)
  | _, [] => ([], false)
  | fuel + 1, '\\' :: c :: rest =>
    let go (front : List Char) (rest : List Char) : List Char × Bool :=
      let (behind, ended) := unescaped fuel rest
      (front ++ behind, ended)
    if c = 'c' then ([], true)
    else if Ascii.isOctal c then
      let digits := ((c :: rest).take (if c = '0' then 4 else 3)).takeWhile Ascii.isOctal
      go [octalChar digits] ((c :: rest).drop digits.length)
    else
      match simpleEscape? c with
      | some plain => go [plain] rest
      | none => go ['\\', c] rest
  | fuel + 1, c :: rest =>
    let (behind, ended) := unescaped fuel rest
    (c :: behind, ended)

/-- What `echo` writes. -/
def echoLine (arguments : List String) : List UInt8 :=
  let (newline, arguments) :=
    match arguments with
    | "-n" :: rest => (false, rest)
    | rest => (true, rest)
  let text := (" ".intercalate arguments).toList
  let (shown, ended) := echoed (text.length + 1) text
  ByteText.toBytes (String.ofList (if newline && !ended then shown ++ ['\n'] else shown))

/-- What is wrong with a format or with one of its arguments. -/
inductive FormatFault where
  | noNumber (text : String)
  /-- There is more behind a number. -/
  | longerThanNumber (text : String)
  | tooLarge (text : String)
  | unknownDirective (text : String)
  /-- The format ends in front of the letter of a directive. -/
  | unfinished (text : String)
  deriving DecidableEq, Inhabited

namespace FormatFault

/-- The words of the shell. -/
def message : FormatFault → String
  | noNumber text => s!"{text}: expected numeric value"
  | longerThanNumber text => s!"{text}: not completely converted"
  | tooLarge text => s!"{text}: Numerical result out of range"
  | unknownDirective text => s!"{text}: invalid directive"
  | unfinished _ => "missing format character"

end FormatFault

/-- What an argument that should be a number stands for, and what is wrong with it. -/
structure Reading (α : Type) where
  value : α
  fault : Option FormatFault := none

namespace Reading

def incomplete (text : String) (rest : List Char) (isEmpty : Bool) : Option FormatFault :=
  if rest.isEmpty then none else if isEmpty then some (.noNumber text) else some (.longerThanNumber text)

/-- The number of the character behind a quote. -/
def quoted? (text : String) : Option Nat :=
  match text.toList with
  | q :: rest => if q = '\'' || q = '"' then some ((rest.head?.map Char.toNat).getD 0) else none
  | [] => none

/-- A sign, and digits in the base that their beginning tells. -/
def parts (text : List Char) : Bool × Nat × List Char × List Char :=
  let body := text.dropWhile Ascii.isSpace
  let (negative, body) :=
    match body with
    | '-' :: rest => (true, rest)
    | '+' :: rest => (false, rest)
    | rest => (false, rest)
  match body with
  | '0' :: x :: c :: rest =>
    if (x = 'x' || x = 'X') && Ascii.isHexDigit c then
      (negative, 16, (c :: rest).takeWhile Ascii.isHexDigit, (c :: rest).dropWhile Ascii.isHexDigit)
    else (negative, 8, body.takeWhile Ascii.isOctal, body.dropWhile Ascii.isOctal)
  | '0' :: _ => (negative, 8, body.takeWhile Ascii.isOctal, body.dropWhile Ascii.isOctal)
  | body => (negative, 10, body.takeWhile Char.isDigit, body.dropWhile Char.isDigit)

def ofParts (text : String) (read : Bool → Nat → Int × Bool) : Reading Int :=
  match quoted? text with
  | some code => ⟨code, none⟩
  | none =>
    let (negative, base, digits, rest) := parts text.toList
    let rest := if digits.isEmpty then text.toList else rest
    let (value, fits) := read negative (Ascii.number base digits)
    match incomplete text rest digits.isEmpty with
    | some fault => ⟨value, some fault⟩
    | none => ⟨value, if fits then none else some (.tooLarge text)⟩

def signed (text : String) : Reading Int :=
  ofParts text fun negative value =>
    let limit : Nat := Nat.pow 2 63
    if negative then (if limit < value then (-(limit : Int), false) else (-(value : Int), true))
    else if limit ≤ value then ((limit : Int) - 1, false)
    else (value, true)

def unsigned (text : String) : Reading Int :=
  ofParts text fun negative value =>
    let limit : Nat := Nat.pow 2 64
    if limit ≤ value then ((limit : Int) - 1, false)
    else if negative then ((limit - value) % limit, true)
    else (value, true)

def figure (text : String) : Reading Figure :=
  match quoted? text with
  | some code => ⟨⟨false, .fraction code 1⟩, none⟩
  | none =>
    match Figure.readDecimal (text.toList.dropWhile Ascii.isSpace) with
    | some (figure, rest) => ⟨.ofFloat figure.toFloat, incomplete text rest false⟩
    | none => ⟨⟨false, .fraction 0 1⟩, incomplete text text.toList true⟩

end Reading

/-- Output so far, the arguments left, what was wrong with those before, and whether output ends for good. -/
structure Printing where
  shown : List Char := []
  arguments : List String
  faults : List FormatFault := []
  used : Bool := false
  ended : Bool := false
  /-- A conversion that there is not. -/
  failure : Option FormatFault := none
  /-- Formats know characters by their number in base sixteen, and an end of all output. -/
  isRich : Bool := false

namespace Printing

def put (printing : Printing) (text : List Char) : Printing := { printing with shown := printing.shown ++ text }

def next (printing : Printing) : String × Printing :=
  match printing.arguments with
  | [] => ("", { printing with used := true })
  | argument :: rest => (argument, { printing with arguments := rest, used := true })

def take (printing : Printing) (read : String → Reading α) : α × Printing :=
  let (argument, printing) := printing.next
  let reading := read argument
  (reading.value, { printing with faults := printing.faults ++ reading.fault.toList })

def bytes (printing : Printing) : List UInt8 := ByteText.toBytes (String.ofList printing.shown)

end Printing

/-- A number in a format, or the next argument for a star. -/
def readCount (printing : Printing) (text : List Char) : Option Int × Printing × List Char :=
  match text with
  | '*' :: rest =>
    let (value, printing) := printing.take Reading.signed
    (some value, printing, rest)
  | text =>
    let digits := text.takeWhile Char.isDigit
    (if digits.isEmpty then none else some (Ascii.number 10 digits : Nat), printing, text.dropWhile Char.isDigit)

def convert (directive : List Char) (letter : Char) (layout : Layout) (printing : Printing) : Printing :=
  match letter with
  | 's' =>
    let (argument, printing) := printing.next
    printing.put (layout.text argument.toList)
  | 'b' =>
    let (argument, printing) := printing.next
    let (text, ended) := unescaped (argument.length + 1) argument.toList
    { printing.put (layout.text text) with ended }
  | 'c' =>
    let (argument, printing) := printing.next
    printing.put (layout.pad [argument.toList.headD '\x00'])
  | _ =>
    if letter = 'd' || letter = 'i' then
      let (value, printing) := printing.take Reading.signed
      printing.put (layout.signed value)
    else if "ouxX".toList.contains letter then
      let (value, printing) := printing.take Reading.unsigned
      printing.put (layout.unsigned letter value.toNat)
    else if "aAeEfFgG".toList.contains letter then
      let (figure, printing) := printing.take Reading.figure
      printing.put (layout.figure letter figure)
    else { printing with failure := some (.unknownDirective (String.ofList directive)) }

/-- One pass through a format. -/
def printPass (fuel : Nat) (text : List Char) (printing : Printing) : Printing :=
  match fuel, text with
  | 0, _ => printing
  | _, [] => printing
  | fuel + 1, c :: rest =>
    if printing.ended || printing.failure.isSome then printing
    else if c = '\\' then
      match rest with
      | [] => printing.put ['\\']
      | d :: behind =>
        if Ascii.isOctal d then
          let digits := (rest.take 3).takeWhile Ascii.isOctal
          printPass fuel (rest.drop digits.length) (printing.put [octalChar digits])
        else if printing.isRich && d = 'c' then { printing with ended := true }
        else if printing.isRich && d = 'x' && behind.head?.any Ascii.isHexDigit then
          let digits := (behind.take 2).takeWhile Ascii.isHexDigit
          printPass fuel (behind.drop digits.length) (printing.put [byteChar (Ascii.number 16 digits)])
        else
          match simpleEscape? d with
          | some plain => printPass fuel behind (printing.put [plain])
          | none => printPass fuel behind (printing.put ['\\', d])
    else if c = '%' then
      match rest with
      | '%' :: behind => printPass fuel behind (printing.put ['%'])
      | given =>
        let (layout, rest) := Layout.readFlags {} given
        let (width, printing, rest) := readCount printing rest
        let (precision, printing, rest) :=
          match rest with
          | '.' :: rest =>
            let (count, printing, rest) := readCount printing rest
            (some (count.getD 0), printing, rest)
          | rest => (none, printing, rest)
        match rest with
        | [] => { printing with failure := some (.unfinished (String.ofList ('%' :: given))) }
        | letter :: rest =>
          let precision := precision.bind fun count => if count < 0 then none else some count.toNat
          let directive := '%' :: given.take (given.length - rest.length)
          printPass fuel rest (convert directive letter { layout.withWidth (width.getD 0) with precision } printing)
    else printPass fuel rest (printing.put [c])

/-- Uses a format until no arguments are left, or until a pass has taken none. -/
def printFormat (fuel : Nat) (format : List Char) (printing : Printing) : Printing :=
  match fuel with
  | 0 => printing
  | fuel + 1 =>
    let after := printPass (format.length + 1) format { printing with used := false }
    if after.ended || after.failure.isSome || after.arguments.isEmpty || !after.used then after
    else printFormat fuel format after

def formatted (format : String) (arguments : List String) ( isRich : Bool) : Printing :=
  printFormat (arguments.length + 1) format.toList { arguments, isRich }

end BuildWatch.Shell
