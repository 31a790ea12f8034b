/-! The classes of the ASCII characters, by the names that patterns use for them. Other bytes belong to none. -/

namespace BuildWatch.Ascii

def isControl (c : Char) : Bool := c.toNat < 32 || c.toNat = 127

def isGraphic (c : Char) : Bool := 32 < c.toNat && c.toNat < 127

def isSpace (c : Char) : Bool := c = ' ' || (9 ≤ c.toNat && c.toNat ≤ 13)

def isHexDigit (c : Char) : Bool := c.isDigit || ('a' ≤ c && c ≤ 'f') || ('A' ≤ c && c ≤ 'F')

def isOctal (c : Char) : Bool := '0' ≤ c && c ≤ '7'

/-- What a digit counts, in bases with letters as well. -/
def digitValue (c : Char) : Nat :=
  if c.isDigit then c.toNat - '0'.toNat else c.toLower.toNat - 'a'.toNat + 10

/-- The number that digits stand for. -/
def number (base : Nat) (digits : List Char) : Nat := digits.foldl (fun value c => value * base + digitValue c) 0

/-- Whether a character belongs to the class of a name; `none` where there is no such class. -/
def inClass? (name : String) (c : Char) : Option Bool :=
  match name with
  | "alnum" => some c.isAlphanum
  | "alpha" => some c.isAlpha
  | "blank" => some (c = ' ' || c = '\t')
  | "cntrl" => some (isControl c)
  | "digit" => some c.isDigit
  | "graph" => some (isGraphic c)
  | "lower" => some c.isLower
  | "print" => some (c = ' ' || isGraphic c)
  | "punct" => some (isGraphic c && !c.isAlphanum)
  | "space" => some (isSpace c)
  | "upper" => some c.isUpper
  | "xdigit" => some (isHexDigit c)
  | _ => none

/-- The name of a class, given behind its opening bracket and colon, and the text behind its end. -/
def className? (text : List Char) : Option (String × List Char) :=
  let name := text.takeWhile Char.isAlphanum
  match text.drop name.length with
  | ':' :: ']' :: rest => if (inClass? (String.ofList name) 'a').isSome then some (String.ofList name, rest) else none
  | _ => none

end BuildWatch.Ascii
