import BuildWatch.Text.Ascii

/-! Arithmetic of a shell, on whole numbers. Names stand for the values of variables, and an assignment is an
expression. What the outcome does not depend on is read, but not carried out. -/

namespace BuildWatch.Shell

inductive ArithmeticToken where
  | number (value : Int)
  | name (text : String)
  | sign (text : String)
  deriving DecidableEq, Inhabited

/-- Why an expression has no value. -/
inductive ArithmeticFault where
  | unreadable (reason : String)
  | notNumber (text : String)
  deriving DecidableEq, Inhabited

namespace Arithmetic

def signs : List String :=
  ["<<=", ">>=", "&&", "||", "==", "!=", "<=", ">=", "<<", ">>", "+=", "-=", "*=", "/=", "%=", "&=", "|=", "^=",
    "+", "-", "*", "/", "%", "<", ">", "=", "!", "~", "&", "|", "^", "(", ")", "?", ":"]

/-- Values wrap around at this number. -/
def modulus : Nat := Nat.pow 2 64

def greatest : Int := (Nat.pow 2 63 : Nat) - 1

def least : Int := -(Nat.pow 2 63 : Nat)

/-- Digits in the base that their beginning tells, and the text behind them. -/
def numeral (text : List Char) : Nat × List Char :=
  let digits (base : Nat) (isDigit : Char → Bool) (text : List Char) : Nat × List Char :=
    (Ascii.number base (text.takeWhile isDigit), text.dropWhile isDigit)
  match text with
  | '0' :: x :: c :: rest =>
    if (x = 'x' || x = 'X') && Ascii.isHexDigit c then digits 16 Ascii.isHexDigit (c :: rest)
    else digits 8 Ascii.isOctal text
  | '0' :: _ => digits 8 Ascii.isOctal text
  | text => digits 10 Char.isDigit text

/-- The number that a value stands for, with blanks around it. An empty one is zero. -/
def valueOf? (text : String) : Option Int :=
  let body := text.toList.dropWhile Ascii.isSpace
  let (negative, body) :=
    match body with
    | '-' :: rest => (true, rest)
    | '+' :: rest => (false, rest)
    | rest => (false, rest)
  let (value, rest) := numeral body
  let value : Int := if negative then -(value : Int) else value
  if body.isEmpty && text.toList.all Ascii.isSpace then some 0
  else if !(body.head?.any Char.isDigit) || rest.any (fun c => !Ascii.isSpace c) || greatest < value || value < least then none
  else some value

/-- A character that is no part of any expression ends the list as a sign of its own. -/
def tokens (fuel : Nat) (text : List Char) : List ArithmeticToken :=
  match fuel, text with
  | 0, _ => []
  | _, [] => []
  | fuel + 1, c :: rest =>
    if c = ' ' || c = '\t' || c = '\n' then tokens fuel rest
    else if c.isDigit then
      let (value, rest) := numeral text
      .number (min (value : Int) greatest) :: tokens fuel rest
    else if c.isAlpha || c = '_' then
      let isPart (c : Char) : Bool := c.isAlphanum || c = '_'
      .name (String.ofList (text.takeWhile isPart)) :: tokens fuel (text.dropWhile isPart)
    else
      match signs.find? fun sign => sign.toList.isPrefixOf text with
      | some sign => .sign sign :: tokens fuel (text.drop sign.length)
      | none => [.sign "@"]

abbrev Bindings : Type := String → Except String Int

/-- An expression that is being worked out: what is left of it, and the variables it has set, latest first. -/
structure Work where
  tokens : List ArithmeticToken
  set : List (String × Int) := []

abbrev Step : Type := Work → Except ArithmeticFault (Int × Work)

def ofBool (b : Bool) : Int := if b then 1 else 0

/-- The operators of each binding strength, weakest first, that need both their operands. -/
def levels : List (List String) :=
  [["|"], ["^"], ["&"], ["==", "!="], ["<", "<=", ">", ">="], ["<<", ">>"], ["+", "-"], ["*", "/", "%"]]

def bits (operation : Nat → Nat → Nat) (a b : Int) : Int :=
  Int.bmod (operation (a % (modulus : Int)).toNat (b % (modulus : Int)).toNat) modulus

def shift (b : Int) : Nat := (b % 64).toNat

def apply (sign : String) (a b : Int) : Except ArithmeticFault Int :=
  match sign with
  | "|" => .ok (bits (· ||| ·) a b)
  | "^" => .ok (bits (· ^^^ ·) a b)
  | "&" => .ok (bits (· &&& ·) a b)
  | "==" => .ok (ofBool (a == b))
  | "!=" => .ok (ofBool (a != b))
  | "<" => .ok (ofBool (a < b))
  | "<=" => .ok (ofBool (a ≤ b))
  | ">" => .ok (ofBool (b < a))
  | ">=" => .ok (ofBool (b ≤ a))
  | "<<" => .ok (Int.bmod (a * (Nat.pow 2 (shift b) : Nat)) modulus)
  | ">>" => .ok (a.fdiv (Nat.pow 2 (shift b) : Nat))
  | "+" => .ok (Int.bmod (a + b) modulus)
  | "-" => .ok (Int.bmod (a - b) modulus)
  | "*" => .ok (Int.bmod (a * b) modulus)
  | "/" => if b = 0 then .error (.unreadable "division by zero") else .ok (a.tdiv b)
  | "%" => if b = 0 then .error (.unreadable "division by zero") else .ok (a.tmod b)
  | _ => .error (.unreadable "expecting EOF")

def assignmentOperator? (sign : String) : Option String :=
  if sign = "=" then some ""
  else if ["+=", "-=", "*=", "/=", "%=", "&=", "|=", "^=", "<<=", ">>="].contains sign then
    some (String.ofList (sign.toList.dropLast))
  else none

def look (bindings : Bindings) (work : Work) (name : String) : Except ArithmeticFault Int :=
  match work.set.find? (·.1 == name) with
  | some (_, value) => .ok value
  | none =>
    match bindings name with
    | .ok value => .ok value
    | .error text => .error (.notNumber text)

mutual

def expression (bindings : Bindings) (fuel : Nat) (live : Bool) : Step := fun work =>
  match fuel with
  | 0 => .error (.unreadable "expecting EOF")
  | fuel + 1 =>
    match work.tokens with
    | .name name :: .sign sign :: rest =>
      match assignmentOperator? sign with
      | some operator => do
        let (value, after) ← expression bindings fuel live { work with tokens := rest }
        if !live then return (value, after)
        else
          let value ← if operator = "" then pure value else do apply operator (← look bindings after name) value
          return (value, { after with set := (name, value) :: after.set })
      | none => conditional bindings fuel live work
    | _ => conditional bindings fuel live work

def conditional (bindings : Bindings) (fuel : Nat) (live : Bool) : Step := fun work =>
  match fuel with
  | 0 => .error (.unreadable "expecting EOF")
  | fuel + 1 => do
    let (condition, after) ← either bindings fuel live work
    match after.tokens with
    | .sign "?" :: rest => do
      let (first, after) ← expression bindings fuel (live && condition != 0) { after with tokens := rest }
      match after.tokens with
      | .sign ":" :: rest => do
        let (second, after) ← conditional bindings fuel (live && condition == 0) { after with tokens := rest }
        return (if condition != 0 then first else second, after)
      | _ => .error (.unreadable "expecting ':'")
    | _ => return (condition, after)

def either (bindings : Bindings) (fuel : Nat) (live : Bool) : Step := fun work =>
  match fuel with
  | 0 => .error (.unreadable "expecting EOF")
  | fuel + 1 => do
    let (first, after) ← both bindings fuel live work
    match after.tokens with
    | .sign "||" :: rest => do
      let (second, after) ← either bindings fuel (live && first == 0) { after with tokens := rest }
      return (ofBool (first != 0 || second != 0), after)
    | _ => return (first, after)

def both (bindings : Bindings) (fuel : Nat) (live : Bool) : Step := fun work =>
  match fuel with
  | 0 => .error (.unreadable "expecting EOF")
  | fuel + 1 => do
    let (first, after) ← operation bindings fuel live levels work
    match after.tokens with
    | .sign "&&" :: rest => do
      let (second, after) ← both bindings fuel (live && first != 0) { after with tokens := rest }
      return (ofBool (first != 0 && second != 0), after)
    | _ => return (first, after)

def operation (bindings : Bindings) (fuel : Nat) (live : Bool) (levels : List (List String)) : Step := fun work =>
  match fuel with
  | 0 => .error (.unreadable "expecting EOF")
  | fuel + 1 =>
    match levels with
    | [] => unary bindings fuel live work
    | signs :: tighter => do
      let (first, after) ← operation bindings fuel live tighter work
      further bindings fuel live signs tighter first after

def further (bindings : Bindings) (fuel : Nat) (live : Bool) (signs : List String) (tighter : List (List String))
    (first : Int) : Step := fun work =>
  match fuel with
  | 0 => .error (.unreadable "expecting EOF")
  | fuel + 1 =>
    match work.tokens with
    | .sign sign :: rest =>
      if signs.contains sign then do
        let (second, after) ← operation bindings fuel live tighter { work with tokens := rest }
        further bindings fuel live signs tighter (← if live then apply sign first second else pure second) after
      else .ok (first, work)
    | _ => .ok (first, work)

def unary (bindings : Bindings) (fuel : Nat) (live : Bool) : Step := fun work =>
  match fuel with
  | 0 => .error (.unreadable "expecting EOF")
  | fuel + 1 =>
    match work.tokens with
    | .sign "-" :: rest => do
      let (value, after) ← unary bindings fuel live { work with tokens := rest }
      return (Int.bmod (-value) modulus, after)
    | .sign "+" :: rest => unary bindings fuel live { work with tokens := rest }
    | .sign "!" :: rest => do
      let (value, after) ← unary bindings fuel live { work with tokens := rest }
      return (ofBool (value == 0), after)
    | .sign "~" :: rest => do
      let (value, after) ← unary bindings fuel live { work with tokens := rest }
      return (-value - 1, after)
    | .sign "(" :: rest => do
      let (value, after) ← expression bindings fuel live { work with tokens := rest }
      match after.tokens with
      | .sign ")" :: rest => return (value, { after with tokens := rest })
      | _ => .error (.unreadable "expecting ')'")
    | .number value :: rest => .ok (value, { work with tokens := rest })
    | .name name :: rest => do
      return (← if live then look bindings work name else pure 0, { work with tokens := rest })
    | _ => .error (.unreadable "expecting primary")

end

/-- The value of an expression and the variables it sets, latest first. -/
def evaluate (bindings : Bindings) (text : List Char) : Except ArithmeticFault (Int × List (String × Int)) :=
  let read := tokens (text.length + 1) text
  match expression bindings (40 * read.length + 40) true ⟨read, []⟩ with
  | .error fault => .error fault
  | .ok (value, after) =>
    if after.tokens.isEmpty then .ok (value, after.set) else .error (.unreadable "expecting EOF")

end Arithmetic

end BuildWatch.Shell
