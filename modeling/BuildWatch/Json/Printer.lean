import BuildWatch.Json.Basic
import BuildWatch.Json.Double

/-! Writing JSON. The compact form has no blanks at all, so it always fits on one line;
the pretty form indents by two blanks and leaves empty containers closed. -/

namespace BuildWatch.Json

def hexDigit (n : Nat) : Char := (Nat.toDigits 16 n).headD '0'

def escaped (c : Char) : List Char :=
  if c = '"' then ['\\', '"']
  else if c = '\\' then ['\\', '\\']
  else if c = '\x08' then ['\\', 'b']
  else if c = '\x0c' then ['\\', 'f']
  else if c = '\n' then ['\\', 'n']
  else if c = '\r' then ['\\', 'r']
  else if c = '\t' then ['\\', 't']
  else if c.toNat < 0x20 then ['\\', 'u', '0', '0', hexDigit (c.toNat / 16), hexDigit (c.toNat % 16)]
  else [c]

def textChars (value : String) : List Char :=
  '"' :: (value.toList.flatMap escaped ++ ['"'])

def numeralChars : Numeral → List Char
  | .whole value => (toString value).toList
  | .double bits => (Double.text bits).toList

mutual

def chars : Json → List Char
  | null => ['n', 'u', 'l', 'l']
  | boolean true => ['t', 'r', 'u', 'e']
  | boolean false => ['f', 'a', 'l', 's', 'e']
  | number value => numeralChars value
  | string value => textChars value
  | list items => '[' :: (itemChars items ++ [']'])
  | object fields => '\x7b' :: (fieldChars fields ++ ['\x7d'])

def itemChars : List Json → List Char
  | [] => []
  | [item] => item.chars
  | item :: rest => item.chars ++ ',' :: itemChars rest

def fieldChars : List (String × Json) → List Char
  | [] => []
  | [(key, value)] => textChars key ++ ':' :: value.chars
  | (key, value) :: rest => textChars key ++ ':' :: (value.chars ++ ',' :: fieldChars rest)

end

def compact (value : Json) : String := String.ofList value.chars

def newline (depth : Nat) : List Char := '\n' :: List.replicate (2 * depth) ' '

mutual

def prettyChars (depth : Nat) : Json → List Char
  | list [] => ['[', ']']
  | list items => '[' :: (prettyItems depth items ++ newline depth ++ [']'])
  | object [] => ['\x7b', '\x7d']
  | object fields => '\x7b' :: (prettyFields depth fields ++ newline depth ++ ['\x7d'])
  | plain => plain.chars

def prettyItems (depth : Nat) : List Json → List Char
  | [] => []
  | [item] => newline (depth + 1) ++ prettyChars (depth + 1) item
  | item :: rest => newline (depth + 1) ++ prettyChars (depth + 1) item ++ ',' :: prettyItems depth rest

def prettyFields (depth : Nat) : List (String × Json) → List Char
  | [] => []
  | [(key, value)] => newline (depth + 1) ++ textChars key ++ ':' :: ' ' :: prettyChars (depth + 1) value
  | (key, value) :: rest =>
    newline (depth + 1) ++ textChars key ++ ':' :: ' ' :: (prettyChars (depth + 1) value ++ ',' :: prettyFields depth rest)

end

def pretty (value : Json) : String := String.ofList (value.prettyChars 0)

end BuildWatch.Json
