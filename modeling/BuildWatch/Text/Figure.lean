import BuildWatch.Json.Double
import BuildWatch.Text.Ascii

/-! Numbers written out with so many places. A number is given as a fraction, so that nothing is lost before
it is rounded; a half goes to the even neighbour. -/

namespace BuildWatch

/-- A magnitude, or something beyond all numbers. -/
inductive Magnitude where
  | fraction (num den : Nat)
  | infinite
  | undefined
  deriving DecidableEq, Inhabited

/-- A magnitude with a sign in front, which zero may have as well. -/
structure Figure where
  negative : Bool := false
  magnitude : Magnitude
  deriving DecidableEq, Inhabited

namespace Figure

def ofFloat (value : Float) : Figure :=
  let bits := value.toBits
  let negative := Double.isNegative bits
  if value.isNaN then ⟨negative, .undefined⟩
  else if value.isInf then ⟨negative, .infinite⟩
  else
    let binary := Double.binary bits
    ⟨negative, .fraction (binary.mantissa * Nat.pow 2 binary.exponent.toNat) (Nat.pow 2 (-binary.exponent).toNat)⟩

def roundHalfEven (num den : Nat) : Nat :=
  let below := num / den
  let rest := 2 * (num % den)
  if den < rest || (rest = den && below % 2 = 1) then below + 1 else below

def digitsOf (value : Nat) : List Char := Nat.toDigits 10 value

/-- Digits with a point in front of the last `places` of them. -/
def pointed (places : Nat) (keepPoint : Bool) (digits : List Char) : List Char :=
  let digits := List.replicate (places + 1 - digits.length) '0' ++ digits
  let whole := digits.take (digits.length - places)
  if places = 0 then (if keepPoint then whole ++ ['.'] else whole) else whole ++ '.' :: digits.drop whole.length

def fixed (places : Nat) (keepPoint : Bool) (num den : Nat) : List Char :=
  pointed places keepPoint (digitsOf (roundHalfEven (num * Nat.pow 10 places) den))

/-- The power of ten of the leading digit. -/
def leadingPlace (num den : Nat) : Int :=
  if num = 0 then 0
  else if den ≤ num then (digitsOf (num / den)).length - 1
  else
    let guess := (digitsOf (den / num)).length
    if den ≤ num * Nat.pow 10 (guess - 1) then -((guess - 1 : Nat) : Int) else -(guess : Int)

/-- The first digits of a magnitude, one more than `places`, and the power of ten of the first one. -/
def leading (places : Nat) (num den : Nat) : List Char × Int :=
  let place := leadingPlace num den
  let shift : Int := places - place
  let value := roundHalfEven (num * Nat.pow 10 shift.toNat) (den * Nat.pow 10 (-shift).toNat)
  let digits := digitsOf value
  if places + 1 < digits.length then (digits.take (places + 1), place + 1)
  else (digits ++ List.replicate (places + 1 - digits.length) '0', place)

def exponentText (mark : Char) (power : Int) : List Char :=
  let digits := digitsOf power.natAbs
  mark :: (if power < 0 then '-' else '+') :: (if digits.length < 2 then '0' :: digits else digits)

def scientific (places : Nat) (keepPoint : Bool) (num den : Nat) : List Char :=
  let (digits, power) := leading places num den
  pointed places keepPoint digits ++ exponentText 'e' power

/-- A fraction without the zeros at its end. -/
def trimZeros (text : List Char) : List Char :=
  if text.contains '.' then
    match text.reverse.dropWhile (· = '0') with
    | '.' :: rest => rest.reverse
    | rest => rest.reverse
  else text

/-- So many digits that count, in whichever form is shorter. -/
def general (precision : Nat) (keepZeros : Bool) (num den : Nat) : List Char :=
  let precision := max precision 1
  let (digits, power) := leading (precision - 1) num den
  let tidy (text : List Char) : List Char := if keepZeros then text else trimZeros text
  if power < -4 || (precision : Int) ≤ power then tidy (pointed (precision - 1) keepZeros digits) ++ exponentText 'e' power
  else
    let places := ((precision : Int) - 1 - power).toNat
    tidy (fixed places keepZeros num den)

/-- The digits of a double in base sixteen, behind a leading one. -/
def hexadecimal (num den : Nat) : List Char :=
  if num = 0 then "0x0p+0".toList
  else
    let power : Int := if den ≤ num then Nat.log2 (num / den) else -(Nat.log2 ((den - 1) / num) + 1 : Nat)
    let scaled := num * Nat.pow 2 (52 + (-power).toNat) / (den * Nat.pow 2 power.toNat)
    let digits := Nat.toDigits 16 (scaled % Nat.pow 2 52)
    let fraction := (List.replicate (13 - digits.length) '0' ++ digits).reverse.dropWhile (· = '0')
    let sign := if power < 0 then '-' else '+'
    "0x1".toList ++ (if fraction.isEmpty then [] else '.' :: fraction.reverse) ++ 'p' :: sign :: digitsOf power.natAbs

/-- The text of a magnitude in the form that a letter asks for. -/
def magnitudeText (letter : Char) (precision : Option Nat) (alternative : Bool) : Magnitude → List Char
  | .infinite => "inf".toList
  | .undefined => "nan".toList
  | .fraction num den =>
    match letter with
    | 'e' => scientific (precision.getD 6) alternative num den
    | 'g' => general (precision.getD 6) alternative num den
    | 'a' => hexadecimal num den
    | _ => fixed (precision.getD 6) alternative num den

/-- A decimal number at the beginning of a text, and what stands behind it. -/
def readDecimal (text : List Char) : Option (Figure × List Char) :=
  let (negative, body) :=
    match text with
    | '-' :: rest => (true, rest)
    | '+' :: rest => (false, rest)
    | rest => (false, rest)
  let word := (body.takeWhile Char.isAlpha).map Char.toLower
  if "infinity".toList.isPrefixOf word then some (⟨negative, .infinite⟩, body.drop 8)
  else if "inf".toList.isPrefixOf word then some (⟨negative, .infinite⟩, body.drop 3)
  else if "nan".toList.isPrefixOf word then some (⟨negative, .undefined⟩, body.drop 3)
  else
    match body with
    | '0' :: x :: c :: rest =>
      if (x = 'x' || x = 'X') && Ascii.isHexDigit c then
        let digits := (c :: rest).takeWhile Ascii.isHexDigit
        some (⟨negative, .fraction (Ascii.number 16 digits) 1⟩, (c :: rest).drop digits.length)
      else decimal negative body
    | body => decimal negative body
where
  decimal (negative : Bool) (body : List Char) : Option (Figure × List Char) :=
    let whole := body.takeWhile Char.isDigit
    let rest := body.drop whole.length
    let (places, rest) :=
      match rest with
      | '.' :: behind => (behind.takeWhile Char.isDigit, behind.dropWhile Char.isDigit)
      | rest => ([], rest)
    if whole.isEmpty && places.isEmpty then none
    else
      let (power, rest) := exponent rest
      let shift := power - (places.length : Int)
      let value := Ascii.number 10 (whole ++ places)
      some (⟨negative, .fraction (value * Nat.pow 10 shift.toNat) (Nat.pow 10 (-shift).toNat)⟩, rest)
  exponent (rest : List Char) : Int × List Char :=
    match rest with
    | mark :: behind =>
      if mark = 'e' || mark = 'E' then
        let (negative, digits) :=
          match behind with
          | '-' :: digits => (true, digits)
          | '+' :: digits => (false, digits)
          | digits => (false, digits)
        let power := digits.takeWhile Char.isDigit
        if power.isEmpty then (0, rest)
        else
          let size : Int := min (Ascii.number 10 power) 5000
          (if negative then -size else size, digits.drop power.length)
      else (0, rest)
    | [] => (0, [])

def signed (negative : Bool) (value : Float) : Float := if negative then -value else value

/-- The double next to a figure. -/
def toFloat (figure : Figure) : Float :=
  match figure.magnitude with
  | .infinite => signed figure.negative (1.0 / 0.0)
  | .undefined => 0.0 / 0.0
  | .fraction num den =>
    let places := (digitsOf den).length - 1
    signed figure.negative
      (if den = Nat.pow 10 places then Float.ofScientific num true places
        else if den = 1 then Float.ofScientific num false 0
        else Float.ofScientific (num * Nat.pow 10 40 / den) true 40)

end Figure

end BuildWatch
