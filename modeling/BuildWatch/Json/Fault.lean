import BuildWatch.Text.Quoted
import BuildWatch.Json.Basic
import BuildWatch.Json.Double

/-! Why a JSON text is refused, and where. Lines count from one and columns count bytes. A fault that is
found in values already read has no place. -/

namespace BuildWatch.Json

inductive Reason where
  | endInValue
  | endInList
  | endInObject
  | endInText
  | expectedColon
  | expectedListEnd
  | expectedObjectEnd
  | expectedWord
  | expectedValue
  | invalidEscape
  | invalidNumber
  | numberTooLarge
  | loneSurrogate
  | unfinishedSurrogate
  | controlCharacter
  | keyNotText
  | trailingComma
  | trailingText
  | tooDeep
  | missingField (name : String)
  | duplicateField (name : String)
  | unknownTag (tag : String) (known : List String)
  | wrongKind (found : Json) (wanted : String)
  | outOfRange (value : Int) (wanted : String)
  | wrongLength (length : Nat) (wanted : String)

/-- A value as a message names it: plain values in full, containers by their kind. -/
def kind : Json → String
  | null => "null"
  | boolean value => s!"boolean `{value}`"
  | number (.whole value) => s!"integer `{value}`"
  | number (.double bits) => s!"floating point `{Double.text bits}`"
  | string value => "string " ++ Text.quoted value
  | list _ => "sequence"
  | object _ => "map"

def Reason.message : Reason → String
  | endInValue => "EOF while parsing a value"
  | endInList => "EOF while parsing a list"
  | endInObject => "EOF while parsing an object"
  | endInText => "EOF while parsing a string"
  | expectedColon => "expected `:`"
  | expectedListEnd => "expected `,` or `]`"
  | expectedObjectEnd => "expected `,` or `\x7d`"
  | expectedWord => "expected ident"
  | expectedValue => "expected value"
  | invalidEscape => "invalid escape"
  | invalidNumber => "invalid number"
  | numberTooLarge => "number out of range"
  | loneSurrogate => "lone leading surrogate in hex escape"
  | unfinishedSurrogate => "unexpected end of hex escape"
  | controlCharacter => "control character (\\u0000-\\u001F) found while parsing a string"
  | keyNotText => "key must be a string"
  | trailingComma => "trailing comma"
  | trailingText => "trailing characters"
  | tooDeep => "recursion limit exceeded"
  | missingField name => s!"missing field `{name}`"
  | duplicateField name => s!"duplicate field `{name}`"
  | unknownTag tag known =>
    s!"unknown variant `{tag}`, expected one of " ++ ", ".intercalate (known.map fun name => s!"`{name}`")
  | wrongKind found wanted => s!"invalid type: {found.kind}, expected {wanted}"
  | outOfRange value wanted => s!"invalid value: integer `{value}`, expected {wanted}"
  | wrongLength length wanted => s!"invalid length {length}, expected {wanted}"

/-- A place is named by the text that is still ahead of it. -/
inductive Place where
  | nowhere
  /-- So many bytes into the rest of the text. -/
  | within (rest : List Char) (bytes : Nat)
  /-- Behind the bracket that closes the container which ends in this rest. -/
  | behindContainer (rest : List Char)

structure Fault where
  reason : Reason
  place : Place

def Fault.at (reason : Reason) (rest : List Char) : Fault := ⟨reason, .within rest 0⟩

/-- Placed behind the character that was looked at but not taken. -/
def Fault.ahead (reason : Reason) (rest : List Char) : Fault := ⟨reason, .within rest 1⟩

def byteCount (text : List Char) : Nat := text.foldl (fun count c => count + c.utf8Size) 0

/-- Line and column behind the given bytes of a text. -/
def lineAndColumn (bytes : List UInt8) : Nat × Nat :=
  bytes.foldl (fun (place : Nat × Nat) b => if b == 10 then (place.1 + 1, 0) else (place.1, place.2 + 1)) (1, 0)

def Fault.message (text : List Char) (fault : Fault) : String :=
  match fault.place with
  | .within rest bytes =>
    let all := (String.ofList text).toUTF8.toList
    let (line, column) := lineAndColumn (all.take (all.length - byteCount rest + bytes))
    s!"{fault.reason.message} at line {line} column {column}"
  | _ => fault.reason.message

end BuildWatch.Json
