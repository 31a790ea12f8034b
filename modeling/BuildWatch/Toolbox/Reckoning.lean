import BuildWatch.Text.Layout
import BuildWatch.Text.Regex.Reader
import BuildWatch.Toolbox.Options

/-! Programs that work with numbers: expressions in arguments, rows of numbers, and factors. -/

namespace BuildWatch.Toolbox

open Machine

/-- Why an expression has no value. -/
inductive ExprFault where
  | missingAfter (token : String)
  | unexpected (token : String)
  | expectedClosing (token : String)
  | unexpectedClosing
  | notInteger
  | divisionByZero
  | badRegex (fault : RegexFault)

namespace ExprFault

def message : ExprFault → String
  | missingAfter token => s!"syntax error: missing argument after '{token}'"
  | unexpected token => s!"syntax error: unexpected argument '{token}'"
  | expectedClosing token => s!"syntax error: expecting ')' after '{token}'"
  | unexpectedClosing => "syntax error: unexpected ')'"
  | notInteger => "non-integer argument"
  | divisionByZero => "division by zero"
  | badRegex fault => fault.message

end ExprFault

namespace Expr

/-- A whole number, perhaps with a minus sign. -/
def integer? (text : String) : Option Int :=
  match text.toList with
  | '-' :: digits => (decimal? (String.ofList digits)).map fun value => -(value : Int)
  | _ => (decimal? text).map fun value => (value : Int)

/-- Nothing, or nothing but zeros. -/
def isNull (text : String) : Bool :=
  let digits := if text.startsWith "-" then text.toList.drop 1 else text.toList
  text.isEmpty || (!digits.isEmpty && digits.all (· = '0'))

/-- What is left of the arguments, and the one before them. -/
structure Work where
  rest : List String
  last : String := ""

abbrev Step : Type := Work → Except ExprFault (String × Work)

/-- What a basic expression takes from the front of a text: what its first group takes, or how much it takes. -/
def fit (text pattern : String) : Except ExprFault String :=
  match Regex.ofText {} pattern with
  | .error fault => .error (.badRegex fault)
  | .ok regex =>
    let hasGroup := 0 < regex.groupCount
    match Regex.matchAt? { text := text.toList.toArray } regex 0 with
    | none => .ok (if hasGroup then "" else "0")
    | some found =>
      if hasGroup then
        match found.span? 1 with
        | some (first, last) => .ok (String.ofList ((text.toList.drop first).take (last - first)))
        | none => .ok ""
      else .ok (toString found.last)

def compareTexts (sign a b : String) : Bool :=
  let order : Ordering :=
    match integer? a, integer? b with
    | some a, some b => compare a b
    | _, _ => compare a b
  match sign with
  | "<" => order == .lt
  | "<=" => order != .gt
  | "=" => order == .eq
  | "==" => order == .eq
  | "!=" => order != .eq
  | ">=" => order != .lt
  | _ => order == .gt

def calculate (sign a b : String) : Except ExprFault String :=
  match integer? a, integer? b with
  | some a, some b =>
    match sign with
    | "+" => .ok (toString (a + b))
    | "-" => .ok (toString (a - b))
    | "*" => .ok (toString (a * b))
    | "/" => if b = 0 then .error .divisionByZero else .ok (toString (a.tdiv b))
    | _ => if b = 0 then .error .divisionByZero else .ok (toString (a.tmod b))
  | _, _ => .error .notInteger

/-- Operators from the weakest to the strongest. -/
def levels : List (List String) :=
  [["|"], ["&"], ["<", "<=", "=", "==", "!=", ">=", ">"], ["+", "-"], ["*", "/", "%"], [":"]]

def apply (live : Bool) (sign a b : String) : Except ExprFault String :=
  match sign with
  | "|" => .ok (if isNull a then (if isNull b then "0" else b) else a)
  | "&" => .ok (if isNull a || isNull b then "0" else a)
  | ":" => if live then fit a b else .ok ""
  | sign =>
    if ["+", "-", "*", "/", "%"].contains sign then (if live then calculate sign a b else .ok a)
    else .ok (if compareTexts sign a b then "1" else "0")

/-- The part of a text from a position on, with so many characters. -/
def part (text position count : String) : String :=
  match integer? position, integer? count with
  | some position, some count =>
    if position ≤ 0 || count ≤ 0 then "" else String.ofList ((text.toList.drop (position - 1).toNat).take count.toNat)
  | _, _ => ""

def firstOf (text letters : String) : Nat := (text.toList.findIdx? letters.toList.contains).elim 0 (· + 1)

mutual

def level (fuel : Nat) (live : Bool) (levels : List (List String)) : Step := fun work =>
  match fuel with
  | 0 => .ok ("", work)
  | fuel + 1 =>
    match levels with
    | [] => word fuel live work
    | signs :: tighter => do
      let (first, after) ← level fuel live tighter work
      further fuel live signs tighter first after

def further (fuel : Nat) (live : Bool) (signs : List String) (tighter : List (List String)) (first : String) : Step :=
  fun work =>
    match fuel with
    | 0 => .ok (first, work)
    | fuel + 1 =>
      match work.rest with
      | sign :: rest =>
        if signs.contains sign then do
          let needed := live && !(sign = "|" && !isNull first) && !(sign = "&" && isNull first)
          let (second, after) ← level fuel needed tighter { rest, last := sign }
          further fuel live signs tighter (← apply live sign first second) after
        else .ok (first, work)
      | [] => .ok (first, work)

def word (fuel : Nat) (live : Bool) : Step := fun work =>
  match fuel with
  | 0 => .ok ("", work)
  | fuel + 1 =>
    match work.rest with
    | [] => .error (.missingAfter work.last)
    | "+" :: [] => .error (.missingAfter "+")
    | "+" :: text :: rest => .ok (text, { rest, last := text })
    | "(" :: rest => do
      let (value, after) ← level fuel live levels { rest, last := "(" }
      match after.rest with
      | ")" :: rest => return (value, { rest, last := ")" })
      | [] => .error (.expectedClosing after.last)
      | token :: _ => .error (.expectedClosing token)
    | ")" :: _ => .error .unexpectedClosing
    | "match" :: rest => do
      let (text, after) ← word fuel live { rest, last := "match" }
      let (pattern, after) ← word fuel live after
      return (← if live then fit text pattern else pure "", after)
    | "index" :: rest => do
      let (text, after) ← word fuel live { rest, last := "index" }
      let (letters, after) ← word fuel live after
      return (toString (firstOf text letters), after)
    | "length" :: rest => do
      let (text, after) ← word fuel live { rest, last := "length" }
      return (toString text.length, after)
    | "substr" :: rest => do
      let (text, after) ← word fuel live { rest, last := "substr" }
      let (position, after) ← word fuel live after
      let (count, after) ← word fuel live after
      return (part text position count, after)
    | text :: rest => .ok (text, { rest, last := text })

end

def evaluate (arguments : List String) : Except ExprFault String := do
  let (value, after) ← level (40 * arguments.length + 40) true levels { rest := arguments }
  match after.rest with
  | [] => return value
  | token :: _ => .error (.unexpected token)

end Expr

def expr : Tool := fun arguments _ =>
  let arguments := if arguments.head? = some "--" then arguments.tail else arguments
  if arguments.isEmpty then misuse 2 "expr" "missing operand"
  else
    match Expr.evaluate arguments with
    | .error fault => refuseWith 2 "expr" fault.message
    | .ok value => writeLines "expr" [value] (if Expr.isNull value then 1 else 0)

/-- A decimal number, as a whole number of units behind so many places. -/
structure Decimal where
  units : Int
  places : Nat
  deriving Inhabited

namespace Decimal

def parse? (text : String) : Option Decimal :=
  let (negative, body) :=
    match text.toList with
    | '-' :: rest => (true, rest)
    | '+' :: rest => (false, rest)
    | rest => (false, rest)
  let whole := body.takeWhile Char.isDigit
  let (places, rest) :=
    match body.drop whole.length with
    | '.' :: rest => (rest.takeWhile Char.isDigit, rest.dropWhile Char.isDigit)
    | rest => ([], rest)
  let value : Int := Ascii.number 10 (whole ++ places)
  let signed := if negative then -value else value
  if (whole ++ places).isEmpty then none
  else
    match rest with
    | [] => some ⟨signed, places.length⟩
    | mark :: power =>
      if mark = 'e' || mark = 'E' then
        (integer? (String.ofList power)).map fun power =>
          if power < 0 then ⟨signed, places.length + power.natAbs⟩
          else ⟨signed * (Nat.pow 10 (power.natAbs - places.length) : Nat), places.length - power.natAbs⟩
      else none

def scaled (places : Nat) (value : Decimal) : Int := value.units * (Nat.pow 10 (places - value.places) : Nat)

def text (places : Nat) (units : Int) : String :=
  String.ofList ((if units < 0 then ['-'] else []) ++ Figure.pointed places false (Nat.toDigits 10 units.natAbs))

end Decimal

def seqTable : OptionTable :=
  { tool := "seq", letters := "f:s:w", inOrder := true,
    names := [("format", 'f'), ("separator", 's'), ("equal-width", 'w')] }

/-- Puts a number where a format has its conversion. -/
def formatNumber (format : String) (units : Int) (places : Nat) : Option String :=
  let front := format.toList.takeWhile (· != '%')
  match format.toList.drop front.length with
  | '%' :: rest =>
    let (layout, rest) := Layout.readFlags {} rest
    let width := rest.takeWhile Char.isDigit
    let rest := rest.drop width.length
    let (precision, rest) :=
      match rest with
      | '.' :: rest => (some (Ascii.number 10 (rest.takeWhile Char.isDigit)), rest.dropWhile Char.isDigit)
      | rest => (none, rest)
    match rest with
    | letter :: behind =>
      if "aefgAEFG".toList.contains letter then
        let layout := { layout with width := Ascii.number 10 width, precision }
        let figure : Figure := ⟨units < 0, .fraction units.natAbs (Nat.pow 10 places)⟩
        some (String.ofList (front ++ layout.figure letter figure ++ behind))
      else none
    | [] => none
  | _ => none

def seqFrom (line : Int → String) (separator : String) (step last : Int) (fuel : Nat) (value : Int) (isFirst : Bool) : Program :=
  match fuel with
  | 0 => .exit 0
  | fuel + 1 =>
    let within (value : Int) : Bool := if step < 0 then last ≤ value else value ≤ last
    if !within value then writeText "seq" (if isFirst then "" else "\n") 0
    else
      let values := ((List.range 256).map fun (index : Nat) => value + step * index).takeWhile within
      let text := separator.intercalate (values.map line)
      writeAll "seq" (ByteText.toBytes (if isFirst then text else separator ++ text)) fun written =>
        if written then seqFrom line separator step last fuel (value + step * values.length) false else .exit 1

def seq : Tool := fun arguments environment =>
  let isNumber (argument : String) : Bool := (Decimal.parse? argument).isSome
  let options := arguments.takeWhile fun argument => !isNumber argument
  let (options, rest) :=
    match options.getLast? with
    | some "-s" => (options ++ (arguments.drop options.length).take 1, arguments.drop (options.length + 1))
    | some "-f" => (options ++ (arguments.drop options.length).take 1, arguments.drop (options.length + 1))
    | _ => (options, arguments.drop options.length)
  withOptions seqTable (fun given _ =>
    let operands := given.operands ++ rest
    match operands.find? (!isNumber ·) with
    | some bad => misuse 1 "seq" s!"invalid floating point argument: '{bad}'"
    | none =>
      let one : Decimal := ⟨1, 0⟩
      let bounds : Option (Decimal × Decimal × Decimal) :=
        match operands.filterMap Decimal.parse? with
        | [last] => some (one, one, last)
        | [first, last] => some (first, one, last)
        | [first, step, last] => some (first, step, last)
        | _ => none
      match bounds, operands with
      | none, [] => missingOperand "seq"
      | none, operands => extraOperand "seq" ((operands[3]?).getD "")
      | some (first, step, last), _ =>
        if step.units = 0 then misuse 1 "seq" ("invalid Zero increment value: '" ++ (operands[1]?).getD "0" ++ "'")
        else
          let places := max first.places (max step.places last.places)
          let shown := max first.places step.places
          let units (value : Decimal) : Int := value.scaled places
          let plain (value : Int) : String := Decimal.text shown (value / (Nat.pow 10 (places - shown) : Nat))
          let width := max (plain (units first)).length (plain (units last)).length
          let line (value : Int) : String :=
            match given.value? 'f' with
            | some format => (formatNumber format value places).getD format
            | none =>
              let text := plain value
              if given.has 'w' then
                let sign := if text.startsWith "-" then "-" else ""
                let digits := String.ofList (text.toList.drop sign.length)
                sign ++ String.ofList (List.replicate (width - text.length) '0') ++ digits
              else text
          seqFrom line ((given.value? 's').getD "\n") (units step) (units last) Program.rounds (units first) true) options environment

/-- The prime factors of a number, smallest first. -/
def factorsOf (fuel value divisor : Nat) : List Nat :=
  match fuel with
  | 0 => [value]
  | fuel + 1 =>
    if value ≤ 1 then []
    else if value < divisor * divisor then [value]
    else if value % divisor = 0 then divisor :: factorsOf fuel (value / divisor) divisor
    else factorsOf fuel value (divisor + 1)

def factor : Tool := withOptions { tool := "factor", letters := "h", names := [("exponents", 'h')] } fun given _ =>
  let go (texts : List String) : Program :=
    let line (text : String) : Option String :=
      (decimal? text).map fun value => s!"{value}:" ++ String.join ((factorsOf 10000000 value 2).map fun factor => s!" {factor}")
    match texts.find? fun text => (decimal? text).isNone with
    | some bad => refuse "factor" s!"'{bad}' is not a valid positive integer"
    | none => writeLines "factor" (texts.filterMap line) 0
  if given.operands.isEmpty then
    Program.readAll 0 fun bytes => go (((ByteText.ofBytes bytes).splitToList Ascii.isSpace).filter (!·.isEmpty))
  else go given.operands

end BuildWatch.Toolbox
