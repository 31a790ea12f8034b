import BuildWatch.Text.Figure
import BuildWatch.Toolbox.Awk.Script

/-! The words of a script. A slash begins an expression where no value stands in front of it. -/

namespace BuildWatch.Toolbox.Awk

inductive Token where
  | number (value : Float) (text : String)
  | quoted (text : String)
  | regex (text : String)
  | name (name : String)
  /-- A name right in front of a parenthesis. -/
  | callee (name : String)
  | primitive (function : Primitive) (name : String)
  | keyword (word : String)
  | sign (text : String)
  | newline
  deriving Inhabited

namespace Token

def keywords : List String :=
  ["BEGIN", "END", "function", "func", "if", "else", "while", "for", "do", "break", "continue", "next", "nextfile", "exit",
    "return", "delete", "in", "getline", "print", "printf"]

def primitives : List (String × Primitive) :=
  [("length", .length), ("substr", .substring), ("index", .index), ("split", .split), ("sub", .replaceFirst),
    ("gsub", .replaceAll), ("match", .matches), ("sprintf", .format), ("tolower", .lower), ("toupper", .upper), ("int", .whole),
    ("sqrt", .root), ("exp", .exponential), ("log", .logarithm), ("sin", .sine), ("cos", .cosine), ("atan2", .arcTangent),
    ("rand", .random), ("srand", .seed), ("system", .system), ("close", .close), ("fflush", .flush)]

/-- The signs of the notation, longer ones first. -/
def signs : List String :=
  ["**=", "&&", "||", "++", "--", "+=", "-=", "*=", "/=", "%=", "^=", "**", "==", "<=", ">=", "!=", "!~", ">>", "\x7b", "\x7d",
    "(", ")", "[", "]", ";", ",", "+", "-", "*", "/", "%", "^", "!", "<", ">", "|", "?", ":", "~", "$", "="]

/-- How a token is named in a complaint. -/
def shown : Token → String
  | number _ spelling => spelling
  | quoted content => "\"" ++ content ++ "\""
  | regex content => "/" ++ content ++ "/"
  | name word => word
  | callee word => word
  | primitive _ word => word
  | keyword word => word
  | sign spelling => spelling
  | newline => "end of line"

/-- A value ends here, so that a slash divides it. -/
def endsValue : Option Token → Bool
  | some (number _ _) => true
  | some (quoted _) => true
  | some (regex _) => true
  | some (name _) => true
  | some (primitive .length _) => true
  | some (sign text) => [")", "]", "$", "++", "--"].contains text
  | _ => false

/-- The characters of a text up to its quote, with escapes carried out, and what stands behind it. -/
def readText (fuel : Nat) (held : List Char) (text : List Char) : Option (List Char × List Char) :=
  match fuel, text with
  | 0, _ => none
  | _, [] => none
  | fuel + 1, '\\' :: c :: rest =>
    if Ascii.isOctal c then
      let digits := ((c :: rest).take 3).takeWhile Ascii.isOctal
      readText fuel (Char.ofNat (Ascii.number 8 digits % 256) :: held) ((c :: rest).drop digits.length)
    else
      match c with
      | 'n' => readText fuel ('\n' :: held) rest
      | 't' => readText fuel ('\t' :: held) rest
      | 'r' => readText fuel ('\r' :: held) rest
      | 'a' => readText fuel ('\x07' :: held) rest
      | 'b' => readText fuel ('\x08' :: held) rest
      | 'f' => readText fuel ('\x0c' :: held) rest
      | 'v' => readText fuel ('\x0b' :: held) rest
      | '"' => readText fuel ('"' :: held) rest
      | '\\' => readText fuel ('\\' :: held) rest
      | '\n' => readText fuel held rest
      | c => readText fuel (c :: '\\' :: held) rest
  | fuel + 1, c :: rest =>
    if c = '"' then some (held.reverse, rest) else if c = '\n' then none else readText fuel (c :: held) rest

/-- A text with its escapes carried out, as it is written between quotes. -/
def unescaped (text : String) : String :=
  let quoted := text.toList.flatMap fun c => if c = '"' then ['\\', '"'] else if c = '\n' then ['\\', '0', '1', '2'] else [c]
  ((readText (quoted.length + 2) [] (quoted ++ ['"'])).map fun (text, _) => String.ofList text).getD text

/-- An expression up to its slash. Inside of a set a slash does not end it. -/
def readRegex (isInSet : Bool) (held : List Char) : List Char → Option (List Char × List Char)
  | [] => none
  | '\\' :: c :: rest => if c = '/' then readRegex isInSet ('/' :: held) rest else readRegex isInSet (c :: '\\' :: held) rest
  | c :: rest =>
    if c = '/' && !isInSet then some (held.reverse, rest)
    else if c = '\n' then none
    else if c = '[' && !isInSet then
      match rest with
      | '^' :: ']' :: behind => readRegex true (']' :: '^' :: '[' :: held) behind
      | ']' :: behind => readRegex true (']' :: '[' :: held) behind
      | rest => readRegex true ('[' :: held) rest
    else readRegex (isInSet && c != ']') (c :: held) rest
  termination_by text => text.length
  decreasing_by all_goals simp_all <;> omega

/-- A number, and what stands behind it. -/
def readNumber (text : List Char) : Option (Float × List Char) :=
  match text with
  | c :: rest =>
    if c.isDigit || (c = '.' && rest.head?.any Char.isDigit) then
      (Figure.readDecimal text).map fun (figure, rest) => (figure.toFloat, rest)
    else none
  | [] => none

def isNameStart (c : Char) : Bool := c.isAlpha || c = '_'

def isNamePart (c : Char) : Bool := c.isAlphanum || c = '_'

def ofWord (word : String) (rest : List Char) : Token :=
  if keywords.contains word then keyword word
  else
    match primitives.find? (·.1 == word) with
    | some (_, function) => primitive function word
    | none => if rest.head? == some '(' then callee word else name word

/-- All tokens, each with the line it stands in. -/
def readAll (fuel line : Nat) (before : Option Token) (held : List (Token × Nat)) (text : List Char) :
    Except Fault (List (Token × Nat)) :=
  match fuel, text with
  | 0, _ => .ok held.reverse
  | _, [] => .ok held.reverse
  | fuel + 1, c :: rest =>
    let put (token : Token) (rest : List Char) : Except Fault (List (Token × Nat)) :=
      readAll fuel line (some token) ((token, line) :: held) rest
    if c = '\n' then readAll fuel (line + 1) (some newline) ((newline, line) :: held) rest
    else if Ascii.isSpace c then readAll fuel line before held rest
    else if c = '\\' && rest.head? == some '\n' then readAll fuel (line + 1) before held (rest.drop 1)
    else if c = '#' then readAll fuel line before held (rest.dropWhile (· != '\n'))
    else if c = '"' then
      match readText (rest.length + 1) [] rest with
      | some (text, rest) => put (.quoted (String.ofList text)) rest
      | none => .error ⟨line, s!"runaway string constant {String.ofList ((c :: rest).take 10)} ..."⟩
    else if c = '/' && !endsValue before then
      match readRegex false [] rest with
      | some (text, rest) => put (regex (String.ofList text)) rest
      | none => .error ⟨line, s!"runaway regular expression {String.ofList ((c :: rest).take 10)} ..."⟩
    else if isNameStart c then
      let word := (c :: rest).takeWhile isNamePart
      let rest := (c :: rest).drop word.length
      put (ofWord (String.ofList word) rest) rest
    else
      match readNumber (c :: rest) with
      | some (value, behind) =>
        put (number value (String.ofList ((c :: rest).take (rest.length + 1 - behind.length)))) behind
      | none =>
        match signs.find? fun sign => sign.toList.isPrefixOf (c :: rest) with
        | some found =>
          let found' := if found = "**" then "^" else if found = "**=" then "^=" else found
          put (sign found') ((c :: rest).drop found.length)
        | none => .error ⟨line, "unexpected character '" ++ String.singleton c ++ "'"⟩

def ofText (text : String) : Except Fault (List (Token × Nat)) := readAll (text.length + 1) 1 none [] text.toList

end Token

end BuildWatch.Toolbox.Awk
