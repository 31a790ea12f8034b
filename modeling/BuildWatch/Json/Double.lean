/-! Doubles as decimal text. A double is written with the fewest digits that read back to it,
positionally while the decimal point stays near the digits, otherwise with an exponent. -/

namespace BuildWatch.Double

/-- A positive binary value `mantissa · 2 ^ exponent`. -/
structure Binary where
  mantissa : Nat
  exponent : Int
  /-- The double below lies only half as far away as the double above. -/
  narrowBelow : Bool

/-- `digits · 10 ^ place`. -/
structure Decimal where
  digits : Nat
  place : Int

def isNegative (bits : UInt64) : Bool := bits.toNat / Nat.pow 2 63 == 1

def binary (bits : UInt64) : Binary :=
  let fraction := bits.toNat % Nat.pow 2 52
  let scale : Nat := bits.toNat / Nat.pow 2 52 % Nat.pow 2 11
  if scale == 0 then ⟨fraction, -1074, false⟩
  else ⟨Nat.pow 2 52 + fraction, (scale : Int) - 1075, fraction == 0 && scale != 1⟩

/-- `value · 2 ^ exponent / 10 ^ place` as a fraction. -/
private def scaled (value : Nat) (exponent place : Int) : Nat × Nat :=
  (value * Nat.pow 2 exponent.toNat * Nat.pow 10 (-place).toNat, Nat.pow 2 (-exponent).toNat * Nat.pow 10 place.toNat)

/-- Whether a decimal rounds to the given double. The bounds of the interval, four times enlarged
to stay whole, belong to it when the mantissa is even. -/
def Binary.nearest (b : Binary) (decimal : Decimal) : Bool :=
  let (low, high) := (4 * b.mantissa - (if b.narrowBelow then 1 else 2), 4 * b.mantissa + 2)
  let candidate := 4 * decimal.digits
  let (lowNum, den) := scaled low b.exponent decimal.place
  let (highNum, _) := scaled high b.exponent decimal.place
  if b.mantissa % 2 == 0 then lowNum ≤ candidate * den && candidate * den ≤ highNum
  else lowNum < candidate * den && candidate * den < highNum

/-- The place of the leading digit of a fraction. -/
private def leadingPlace (num den : Nat) : Int :=
  if den ≤ num then ((Nat.toDigits 10 (num / den)).length : Int) - 1
  else -(raise num 1 400 : Nat)
where
  raise (num count : Nat) : Nat → Nat
    | 0 => count
    | fuel + 1 => if den ≤ num * 10 then count else raise (num * 10) (count + 1) fuel

/-- The nearest decimal with that many digits that reads back, if any does. -/
def Binary.withDigits? (b : Binary) (leading : Int) (count : Nat) : Option Decimal :=
  let place := leading - count + 1
  let (num, den) := scaled b.mantissa b.exponent place
  let below := num / den
  let fits := [below, below + 1].filter fun digits => b.nearest ⟨digits, place⟩
  match fits with
  | [] => none
  | [digits] => some ⟨digits, place⟩
  | _ =>
    let remainder := num % den
    let up := den < 2 * remainder || (2 * remainder == den && below % 2 == 1)
    some ⟨if up then below + 1 else below, place⟩

/-- The same number without zeros at the end of its digits. -/
def Decimal.trimmed (decimal : Decimal) : Decimal :=
  go decimal (Nat.toDigits 10 decimal.digits).length
where
  go (decimal : Decimal) : Nat → Decimal
    | 0 => decimal
    | fuel + 1 =>
      if decimal.digits != 0 && decimal.digits % 10 == 0 then go ⟨decimal.digits / 10, decimal.place + 1⟩ fuel
      else decimal

def Binary.shortest (b : Binary) : Decimal :=
  let (num, den) := scaled b.mantissa b.exponent 0
  let leading := leadingPlace num den
  (((List.range 17).findSome? fun less => b.withDigits? leading (less + 1)).getD ⟨0, 0⟩).trimmed

/-- Where digits stay positional, and how an exponent is written. -/
structure Layout where
  /-- The point lies at most this many places behind the first digit. -/
  greatestPoint : Int
  /-- The point lies more than this many places before the first digit. -/
  leastPoint : Int
  plus : String

/-- Between five leading zeros and sixteen digits a number is positional. -/
def jsonLayout : Layout := ⟨16, -5, "+"⟩

def Layout.write (form : Layout) (decimal : Decimal) : String :=
  let digits := Nat.toDigits 10 decimal.digits
  let count : Int := digits.length
  let point := count + decimal.place
  let zeros (n : Int) := List.replicate n.toNat '0'
  if 0 ≤ decimal.place && point ≤ form.greatestPoint then
    String.ofList (digits ++ zeros decimal.place ++ ['.', '0'])
  else if 0 < point && point ≤ form.greatestPoint then
    String.ofList (digits.take point.toNat ++ '.' :: digits.drop point.toNat)
  else if form.leastPoint < point && point ≤ 0 then
    String.ofList ('0' :: '.' :: (zeros (-point) ++ digits))
  else
    let significand :=
      match digits with
      | [] => []
      | [digit] => [digit]
      | digit :: rest => digit :: '.' :: rest
    let power := point - 1
    let sign := if power < 0 then "-" else form.plus
    String.ofList significand ++ "e" ++ sign ++ toString power.natAbs

def text (bits : UInt64) : String :=
  let b := binary bits
  let sign := if isNegative bits then "-" else ""
  if b.mantissa == 0 then sign ++ "0.0" else sign ++ jsonLayout.write b.shortest

/-- The double next to `significand · 10 ^ exponent`, reached by one rounding of the significand and
one multiplication or division by a power of ten; `none` where that overflows. -/
def ofParts? (significand : Nat) (exponent : Int) : Option UInt64 :=
  let start := (UInt64.ofNat significand).toFloat
  if 0 ≤ exponent then
    if 308 < exponent then if significand == 0 then some start.toBits else none
    else
      let value := start * power exponent.toNat
      if value.isInf then none else some value.toBits
  else some (shrink start (-exponent).toNat ((-exponent).toNat / 308 + 1)).toBits
where
  power (n : Nat) : Float := Float.ofScientific 1 false n
  /-- Divides by powers of ten that a double can hold. -/
  shrink (value : Float) (places : Nat) : Nat → Float
    | 0 => value
    | fuel + 1 =>
      if places ≤ 308 then value / power places
      else if value == 0 then value
      else shrink (value / power 308) (places - 308) fuel

def negate (bits : UInt64) : UInt64 := bits ^^^ ((1 : UInt64) <<< 63)

end BuildWatch.Double
