import BuildWatch.Text.Layout
import BuildWatch.Toolbox.Awk.Script

/-! Values of a script: numbers, texts, and texts from outside, which count as numbers if they look like some. -/

namespace BuildWatch.Toolbox.Awk

inductive Value where
  | none
  | number (value : Float)
  | text (content : String)
  | input (content : String)
  deriving Inhabited

/-- The number at the beginning of a text, and what stands behind it. -/
def leadingNumber? (text : List Char) : Option (Float × List Char) :=
  let text := text.dropWhile Ascii.isSpace
  let body :=
    match text with
    | '-' :: rest => rest
    | '+' :: rest => rest
    | rest => rest
  if body.head?.any fun c => c.isDigit || c = '.' then
    (Figure.readDecimal text).map fun (figure, rest) => (figure.toFloat, rest)
  else none

def numberOf (text : String) : Float := ((leadingNumber? text.toList).map (·.1)).getD 0

/-- The number that a text is, if it is nothing else. -/
def wholeNumber? (text : String) : Option Float :=
  match leadingNumber? text.toList with
  | some (value, rest) => if rest.all Ascii.isSpace then some value else none
  | none => none

/-- The part of a number in front of its point. -/
def truncated (value : Float) : Int :=
  match Figure.ofFloat value with
  | ⟨negative, .fraction num den⟩ => if negative then -((num / den : Nat) : Int) else (num / den : Nat)
  | ⟨negative, .infinite⟩ => if negative then -(Nat.pow 2 63 : Nat) else (Nat.pow 2 63 : Nat)
  | _ => -(Nat.pow 2 63 : Nat)

def natural (value : Float) : Nat := (truncated value).toNat

def isWhole (value : Float) : Bool :=
  match (Figure.ofFloat value).magnitude with
  | .fraction num den => num % den = 0
  | _ => false

/-- A whole number is written in full; any other in a format with one conversion. -/
def numberText (format : String) (value : Float) : String :=
  if value.isNaN then "-nan"
  else if value.isInf then (if value < 0 then "-inf" else "inf")
  else if isWhole value && value.abs < 18446744073709551616 then toString (truncated value)
  else
    let front := format.toList.takeWhile (· != '%')
    let (layout, rest) := Layout.readFlags {} (format.toList.drop (front.length + 1))
    let width := rest.takeWhile Char.isDigit
    let rest := rest.drop width.length
    let (precision, rest) :=
      match rest with
      | '.' :: rest => (some (Ascii.number 10 (rest.takeWhile Char.isDigit)), rest.dropWhile Char.isDigit)
      | rest => (Option.none, rest)
    match rest with
    | letter :: rest =>
      let layout := { layout with width := Ascii.number 10 width, precision }
      if letter = 'd' || letter = 'i' then String.ofList (front ++ layout.signed (truncated value) ++ rest)
      else String.ofList (front ++ layout.figure letter (Figure.ofFloat value) ++ rest)
    | [] => format

namespace Value

def toNumber : Value → Float
  | .none => 0
  | .number value => value
  | .text content => numberOf content
  | .input content => numberOf content

def toText (format : String) : Value → String
  | .none => ""
  | .number value => numberText format value
  | .text content => content
  | .input content => content

def isTrue : Value → Bool
  | .none => false
  | .number value => value != 0
  | .text content => !content.isEmpty
  | .input content =>
    match wholeNumber? content with
    | some value => value != 0
    | Option.none => !content.isEmpty

/-- The number that a value counts as in a comparison. -/
def compared? : Value → Option Float
  | .none => some 0
  | .number value => some value
  | .text _ => Option.none
  | .input content => wholeNumber? content

def ofBool (value : Bool) : Value := .number (if value then 1 else 0)

def ofNat (value : Nat) : Value := .number (Float.ofNat value)

end Value

namespace Relation

def holds (relation : Relation) (order : Ordering) : Bool :=
  match relation with
  | .less => order == .lt
  | .lessOrEqual => order != .gt
  | .equal => order == .eq
  | .unequal => order != .eq
  | .greater => order == .gt
  | .greaterOrEqual => order != .lt

/-- Numbers are compared as such, and all else as text. -/
def compare (relation : Relation) (format : String) (first second : Value) : Bool :=
  match first.compared?, second.compared? with
  | some a, some b =>
    match relation with
    | .less => a < b
    | .lessOrEqual => a ≤ b
    | .equal => a == b
    | .unequal => a != b
    | .greater => b < a
    | .greaterOrEqual => b ≤ a
  | _, _ => relation.holds (Ord.compare (first.toText format) (second.toText format))

end Relation

namespace Arith

def remainderOf (a b : Float) : Float :=
  match Figure.ofFloat a, Figure.ofFloat b with
  | ⟨negative, .fraction num den⟩, ⟨_, .fraction other otherDen⟩ =>
    if other = 0 then 0.0 / 0.0
    else
      let value := (num * otherDen) % (other * den)
      Figure.toFloat ⟨negative, .fraction value (den * otherDen)⟩
  | _, ⟨_, .infinite⟩ => a
  | _, _ => 0.0 / 0.0

/-- A whole power is a product. -/
def raised (base : Float) : Nat → Float
  | 0 => 1
  | n + 1 => base * raised base n

def powerOf (a b : Float) : Float :=
  if isWhole b && b.abs < 1024 then
    let product := raised a (truncated b).natAbs
    if b < 0 then 1 / product else product
  else a.pow b

def apply (operation : Arith) (a b : Float) : Float :=
  match operation with
  | .add => a + b
  | .subtract => a - b
  | .multiply => a * b
  | .divide => a / b
  | .remainder => remainderOf a b
  | .power => powerOf a b

end Arith

/-- Why values cannot be written in a format. -/
inductive FormatFault where
  | missing
  | improper (number : Nat)
  deriving Inhabited

namespace Format

/-- Numbers in full are given as exactly as they can be. -/
def unsigned (value : Int) : Nat := if value < 0 then ((Nat.pow 2 64 : Nat) + value).toNat else value.toNat

def clipped (value : Int) : Int := max (-(Nat.pow 2 63 : Nat)) (min value ((Nat.pow 2 64 : Nat) - 1))

/-- The character that a value stands for. -/
def character (value : Value) : List Char :=
  let byte (value : Float) : List Char := [Char.ofNat (natural value % 256)]
  match value with
  | .number value => byte value
  | .none => ['\x00']
  | .text text => [text.toList.headD '\x00']
  | .input text =>
    match wholeNumber? text with
    | some value => byte value
    | Option.none => [text.toList.headD '\x00']

/-- A count in a format, which may be the next value. -/
def readCount (values : List Value) : List Char → Except FormatFault (Option Int × List Value × List Char)
  | '*' :: rest =>
    match values with
    | [] => .error .missing
    | value :: values => .ok (some (truncated value.toNumber), values, rest)
  | text =>
    let digits := text.takeWhile Char.isDigit
    .ok (if digits.isEmpty then Option.none else some (Ascii.number 10 digits : Nat), values, text.drop digits.length)

/-- The values written in a format. What has been written comes first, last piece in front. -/
def write (texts : String) (fuel number : Nat) (held : List (List Char)) (values : List Value) (format : List Char) :
    List Char × Option FormatFault :=
  let done (fault : Option FormatFault) : List Char × Option FormatFault := (held.reverse.flatten, fault)
  match fuel, format with
  | 0, _ => done Option.none
  | _, [] => done Option.none
  | fuel + 1, '%' :: rest =>
    match rest with
    | '%' :: rest => write texts fuel number (['%'] :: held) values rest
    | rest =>
      let number := number + 1
      let (layout, rest) := Layout.readFlags {} rest
      match readCount values rest with
      | .error fault => done (some fault)
      | .ok (width, values, rest) =>
        let precision : Except FormatFault (Option Int × List Value × List Char) :=
          match rest with
          | '.' :: rest => (readCount values rest).map fun (count, values, rest) => (some (count.getD 0), values, rest)
          | rest => .ok (Option.none, values, rest)
        match precision with
        | .error fault => done (some fault)
        | .ok (precision, values, rest) =>
          let precision := precision.bind fun count => if count < 0 then Option.none else some count.toNat
          let layout := { layout.withWidth (width.getD 0) with precision }
          match rest.dropWhile fun c => c = 'l' || c = 'h' || c = 'L' with
          | [] => done (some (.improper number))
          | letter :: rest =>
            if !"diouxXcseEfgGFaA".toList.contains letter then done (some (.improper number))
            else
              match values with
              | [] => done (some .missing)
              | value :: values =>
                let piece :=
                  match letter with
                  | 's' => layout.text (value.toText texts).toList
                  | 'c' => layout.pad (character value)
                  | _ =>
                    let value := value.toNumber
                    if letter = 'd' || letter = 'i' then layout.signed (clipped (truncated value))
                    else if "ouxX".toList.contains letter then layout.unsigned letter (unsigned (clipped (truncated value)))
                    else layout.figure letter (Figure.ofFloat value)
                write texts fuel number (piece :: held) values rest
  | fuel + 1, c :: rest => write texts fuel number ([c] :: held) values rest

end Format

end BuildWatch.Toolbox.Awk
