import BuildWatch.Json.Fault

/-! Reading JSON from the front of a text. Every reader answers with the value and the text behind it,
or with a fault; containers nest at most `maxDepth` deep. -/

namespace BuildWatch.Json

abbrev Reader (α : Type) := List Char → Except Fault (α × List Char)

def maxDepth : Nat := 127

def isSpace (c : Char) : Bool := c = ' ' || c = '\n' || c = '\t' || c = '\r'

def skipSpace (text : List Char) : List Char := text.dropWhile isSpace

/-! ### Words and numbers -/

def readWord : List Char → Reader Unit
  | [], text => .ok ((), text)
  | _ :: _, [] => .error (.at .endInValue [])
  | expected :: word, c :: rest =>
    if c = expected then readWord word rest else .error (.ahead .expectedWord (c :: rest))

def isDigit (c : Char) : Bool := '0' ≤ c && c ≤ '9'

def digitValue (c : Char) : Nat := c.toNat - '0'.toNat

/-- Appends digits to a number as long as it stays below `bound`; answers with the number, how many
digits were taken, and the text behind them. -/
def takeDigits (bound : Nat) (value count : Nat) : List Char → Nat × Nat × List Char
  | [] => (value, count, [])
  | c :: rest =>
    if isDigit c && value * 10 + digitValue c < bound then
      takeDigits bound (value * 10 + digitValue c) (count + 1) rest
    else (value, count, c :: rest)

def double (negative : Bool) (significand : Nat) (exponent : Int) : Reader Numeral := fun rest =>
  match Double.ofParts? significand exponent with
  | none => .error (.at .numberTooLarge rest)
  | some bits => .ok (.double (if negative then Double.negate bits else bits), rest)

def startsWithDigit : List Char → Bool
  | c :: _ => isDigit c
  | [] => false

/-- The exponent behind its letter, added to the one the digits have brought along. -/
def readExponent (negative : Bool) (significand : Nat) (exponent : Int) : Reader Numeral := fun text =>
  let (down, text) :=
    match text with
    | '+' :: rest => (false, rest)
    | '-' :: rest => (true, rest)
    | rest => (false, rest)
  match text with
  | [] => .error (.at .endInValue [])
  | c :: rest =>
    if !isDigit c then .error (.ahead .invalidNumber (c :: rest))
    else
      let (power, _, rest) := takeDigits (Nat.pow 2 31) 0 0 (c :: rest)
      if startsWithDigit rest then
        if significand != 0 && !down then .error (.ahead .numberTooLarge rest)
        else .ok (.double (if negative then Double.negate 0 else 0), rest.dropWhile isDigit)
      else double negative significand (if down then exponent - power else exponent + power) rest

def readExponent? (negative : Bool) (significand : Nat) (exponent : Int) : Reader Numeral
  | 'e' :: rest | 'E' :: rest => readExponent negative significand exponent rest
  | rest => double negative significand exponent rest

/-- The digits behind the point; those that no longer fit the significand are passed over. -/
def readFraction (negative : Bool) (significand : Nat) (exponent : Int) : Reader Numeral := fun text =>
  let (longer, count, rest) := takeDigits (Nat.pow 2 64) significand 0 text
  if startsWithDigit rest then
    readExponent? negative longer (exponent - count) (rest.dropWhile isDigit)
  else if count == 0 then
    match rest with
    | [] => .error (.ahead .endInValue [])
    | rest => .error (.ahead .invalidNumber rest)
  else readExponent? negative longer (exponent - count) rest

def whole (negative : Bool) (value : Nat) : Numeral :=
  if !negative then .whole value
  else if value == 0 || Nat.pow 2 63 < value then .double (Double.negate (UInt64.ofNat value).toFloat.toBits)
  else .whole (-value)

/-- A number behind its sign. -/
def readNumber (negative : Bool) : Reader Numeral
  | [] => .error (.at .endInValue [])
  | '0' :: rest =>
    if startsWithDigit rest then .error (.ahead .invalidNumber rest)
    else
      match rest with
      | '.' :: rest => readFraction negative 0 0 rest
      | 'e' :: rest | 'E' :: rest => readExponent negative 0 0 rest
      | rest => .ok (whole negative 0, rest)
  | c :: rest =>
    if !isDigit c then .error (.ahead .invalidNumber (c :: rest))
    else
      let (value, _, rest) := takeDigits (Nat.pow 2 64) 0 0 (c :: rest)
      let further := rest.takeWhile isDigit
      match rest.dropWhile isDigit with
      | '.' :: rest => readFraction negative value further.length rest
      | 'e' :: rest | 'E' :: rest => readExponent negative value further.length rest
      | rest =>
        if further.isEmpty then .ok (whole negative value, rest)
        else double negative value further.length rest

/-! ### Text -/

def hexValue? (c : Char) : Option Nat :=
  if isDigit c then some (digitValue c)
  else if 'a' ≤ c && c ≤ 'f' then some (c.toNat - 'a'.toNat + 10)
  else if 'A' ≤ c && c ≤ 'F' then some (c.toNat - 'A'.toNat + 10)
  else none

/-- Four hexadecimal digits, taken as four bytes whatever characters they belong to. -/
def readHex (text : List Char) : Except Fault (Nat × List Char) :=
  if byteCount text < 4 then .error (.at .endInText [])
  else
    match text with
    | a :: b :: c :: d :: rest =>
      match hexValue? a, hexValue? b, hexValue? c, hexValue? d with
      | some a, some b, some c, some d => .ok (((a * 16 + b) * 16 + c) * 16 + d, rest)
      | _, _, _, _ => .error ⟨.invalidEscape, .within text 4⟩
    | _ => .error ⟨.invalidEscape, .within text 4⟩

/-- The character of a number escape behind its letter. Two surrogates make one character. -/
def readUnicode (text : List Char) : Except Fault (Char × List Char) := do
  let (first, rest) ← readHex text
  if 0xdc00 ≤ first && first ≤ 0xdfff then throw (.at .loneSurrogate rest)
  else if first < 0xd800 || 0xdbff < first then return (Char.ofNat first, rest)
  else
    match rest with
    | '\\' :: 'u' :: rest =>
      let (second, rest) ← readHex rest
      if second < 0xdc00 || 0xdfff < second then throw (.at .loneSurrogate rest)
      else return (Char.ofNat ((first - 0xd800) * 1024 + (second - 0xdc00) + 0x10000), rest)
    | [] | ['\\'] => throw (.at .endInText [])
    | '\\' :: rest => throw (.ahead .unfinishedSurrogate rest)
    | rest => throw (.ahead .unfinishedSurrogate rest)

def shortEscape? : Char → Option Char
  | '"' => some '"'
  | '\\' => some '\\'
  | '/' => some '/'
  | 'b' => some '\x08'
  | 'f' => some '\x0c'
  | 'n' => some '\n'
  | 'r' => some '\r'
  | 't' => some '\t'
  | _ => none

/-- One character of a text, or its end. -/
def readChar : Reader (Option Char)
  | [] => .error (.at .endInText [])
  | '"' :: rest => .ok (none, rest)
  | '\\' :: [] => .error (.at .endInText [])
  | '\\' :: 'u' :: rest => (readUnicode rest).map fun (c, rest) => (some c, rest)
  | '\\' :: c :: rest =>
    match shortEscape? c with
    | some c => .ok (some c, rest)
    | none => .error (.ahead .invalidEscape (c :: rest))
  | c :: rest => if c.toNat < 0x20 then .error (.ahead .controlCharacter (c :: rest)) else .ok (some c, rest)

def readChars (fuel : Nat) (read : List Char) : Reader String := fun text =>
  match fuel with
  | 0 => .error (.at .endInText text)
  | fuel + 1 =>
    match readChar text with
    | .error fault => .error fault
    | .ok (none, rest) => .ok (String.ofList read.reverse, rest)
    | .ok (some c, rest) => readChars fuel (c :: read) rest

/-- A text behind its opening quote. -/
def readText : Reader String := fun text => readChars (text.length + 1) [] text

/-! ### Containers -/

/-- Steps to the next item of a list; `none` at the closing bracket, which stays ahead. -/
def nextItem (first : Bool) (text : List Char) : Except Fault (Option (List Char)) :=
  match skipSpace text with
  | [] => .error (.ahead .endInList [])
  | ']' :: _ => .ok none
  | ',' :: rest =>
    if first then .ok (some (',' :: rest))
    else
      match skipSpace rest with
      | [] => .error (.ahead .endInValue [])
      | ']' :: rest => .error (.ahead .trailingComma (']' :: rest))
      | rest => .ok (some rest)
  | rest => if first then .ok (some rest) else .error (.ahead .expectedListEnd rest)

/-- Steps behind the opening quote of the next key; `none` at the closing brace, which stays ahead. -/
def nextKey (first : Bool) (text : List Char) : Except Fault (Option (List Char)) :=
  match skipSpace text with
  | [] => .error (.ahead .endInObject [])
  | '\x7d' :: _ => .ok none
  | ',' :: rest =>
    if first then .error (.ahead .keyNotText (',' :: rest))
    else
      match skipSpace rest with
      | [] => .error (.ahead .endInValue [])
      | '"' :: rest => .ok (some rest)
      | '\x7d' :: rest => .error (.ahead .trailingComma ('\x7d' :: rest))
      | rest => .error (.ahead .keyNotText rest)
  | '"' :: rest => if first then .ok (some rest) else .error (.ahead .expectedObjectEnd ('"' :: rest))
  | rest => if first then .error (.ahead .keyNotText rest) else .error (.ahead .expectedObjectEnd rest)

def readColon : Reader Unit := fun text =>
  match skipSpace text with
  | [] => .error (.ahead .endInObject [])
  | ':' :: rest => .ok ((), rest)
  | rest => .error (.ahead .expectedColon rest)

/-- The text behind a closing bracket, if that is what comes next. -/
def close (bracket : Char) (text : List Char) : List Char :=
  match skipSpace text with
  | c :: rest => if c = bracket then rest else c :: rest
  | [] => []

/-- Items up to the closing bracket, which stays ahead. -/
def readItems (item : Reader α) (fuel : Nat) (first : Bool) (read : List α) : Reader (List α) := fun text =>
  match fuel with
  | 0 => .error (.at .endInList text)
  | fuel + 1 =>
    match nextItem first text with
    | .error fault => .error fault
    | .ok none => .ok (read.reverse, text)
    | .ok (some text) =>
      match item text with
      | .error fault => .error fault
      | .ok (value, rest) => readItems item fuel false (value :: read) rest

/-- Fields up to the closing brace, which stays ahead. A field is read from its key on, so it may refuse
the key before it looks at the value. -/
def readFields (field : σ → String → Reader σ) (fuel : Nat) (first : Bool) (state : σ) : Reader σ := fun text =>
  match fuel with
  | 0 => .error (.at .endInObject text)
  | fuel + 1 =>
    match nextKey first text with
    | .error fault => .error fault
    | .ok none => .ok (state, text)
    | .ok (some text) =>
      match readText text with
      | .error fault => .error fault
      | .ok (key, rest) =>
        match field state key rest with
        | .error fault => .error fault
        | .ok (state, rest) => readFields field fuel false state rest

/-- Runs a reader of a container's content and takes the closing bracket. A fault of the container
as a whole is placed behind that bracket. -/
def closing (bracket : Char) (content : Reader α) : Reader α := fun text =>
  match content text with
  | .ok (value, rest) => .ok (value, close bracket rest)
  | .error ⟨reason, .behindContainer rest⟩ => .error (.at reason (close bracket rest))
  | .error fault => .error fault

def listOf (item : Reader α) : Reader (List α) :=
  closing ']' fun text => readItems item (text.length + 1) true [] text

def objectOf (field : σ → String → Reader σ) (state : σ) : Reader σ :=
  closing '\x7d' fun text => readFields field (text.length + 1) true state text

/-- Adds a field with a free value to the fields read before, last first. -/
def freeField (value : Reader Json) (read : List (String × Json)) (key : String) : Reader (List (String × Json)) :=
  fun text =>
    match readColon text with
    | .error fault => .error fault
    | .ok (_, rest) =>
      match value rest with
      | .error fault => .error fault
      | .ok (value, rest) => .ok ((key, value) :: read, rest)

/-- A value that is no container. -/
def readPlain : Reader Json
  | [] => .error (.ahead .endInValue [])
  | 'n' :: rest => (readWord ['u', 'l', 'l'] rest).map fun (_, rest) => (null, rest)
  | 't' :: rest => (readWord ['r', 'u', 'e'] rest).map fun (_, rest) => (boolean true, rest)
  | 'f' :: rest => (readWord ['a', 'l', 's', 'e'] rest).map fun (_, rest) => (boolean false, rest)
  | '-' :: rest => (readNumber true rest).map fun (value, rest) => (number value, rest)
  | '"' :: rest => (readText rest).map fun (value, rest) => (string value, rest)
  | c :: rest =>
    if isDigit c then (readNumber false (c :: rest)).map fun (value, rest) => (number value, rest)
    else .error (.ahead .expectedValue (c :: rest))

/-- Any value, with at most `depth` containers around one another. -/
def readValue (depth : Nat) : Reader Json := fun given =>
  match skipSpace given with
  | '[' :: rest =>
    match depth with
    | 0 => .error (.ahead .tooDeep ('[' :: rest))
    | depth + 1 => (listOf (readValue depth) rest).map fun (items, rest) => (list items, rest)
  | '\x7b' :: rest =>
    match depth with
    | 0 => .error (.ahead .tooDeep ('\x7b' :: rest))
    | depth + 1 =>
      (objectOf (freeField (readValue depth)) [] rest).map fun (fields, rest) => (object fields.reverse, rest)
  | rest => readPlain rest

/-- Reads a whole text and refuses anything behind the value but space. -/
def readAll (reader : Reader α) (given : List Char) : Except Fault α :=
  match reader given with
  | .error fault => .error fault
  | .ok (value, rest) =>
    match skipSpace rest with
    | [] => .ok value
    | rest => .error (.ahead .trailingText rest)

def decodeText (reader : Reader α) (given : String) : Except String α :=
  match readAll reader given.toList with
  | .ok value => .ok value
  | .error fault => .error (fault.message given.toList)

/-- The value a text holds, with settled objects. -/
def parse (given : String) : Except String Json :=
  (decodeText (readValue maxDepth) given).map settled

end BuildWatch.Json
