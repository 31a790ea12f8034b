import BuildWatch.Machine.Program
import BuildWatch.Shell.Arithmetic

/-! Conditions that a shell tests: on texts, on numbers, and on files. -/

namespace BuildWatch.Shell

inductive Comparison where
  | equal
  | unequal
  | less
  | lessOrEqual
  | greater
  | greaterOrEqual
  deriving DecidableEq, Inhabited

def Comparison.holds : Comparison → Int → Int → Bool
  | equal, a, b => a == b
  | unequal, a, b => a != b
  | less, a, b => a < b
  | lessOrEqual, a, b => a ≤ b
  | greater, a, b => b < a
  | greaterOrEqual, a, b => b ≤ a

/-- What is asked about a file. -/
inductive FileQuestion where
  | present
  | regular
  | directory
  | executable
  | filled
  | device
  /-- Asked of what the machine does not have. -/
  | never
  deriving DecidableEq, Inhabited

open Machine in
def FileQuestion.answer : FileQuestion → Option FileKind → Bool
  | present, kind => kind.isSome
  | regular, some (.file _ _) => true
  | directory, some .directory => true
  | executable, some .directory => true
  | executable, some (.file _ allowed) => allowed
  | filled, some (.file size _) => 0 < size
  | filled, some .directory => true
  | device, some .device => true
  | _, _ => false

inductive Condition where
  | constant (value : Bool)
  | compared (comparison : Comparison) (first second : Int)
  | asked (question : FileQuestion) (path : String)
  /-- Two paths lead to the same file. -/
  | same (first second : String)
  | opposite (inner : Condition)
  | both (first second : Condition)
  | either (first second : Condition)
  deriving Inhabited

namespace Condition

def fileQuestion? : String → Option FileQuestion
  | "-e" => some .present
  | "-f" => some .regular
  | "-d" => some .directory
  | "-x" => some .executable
  | "-r" => some .present
  | "-w" => some .present
  | "-s" => some .filled
  | "-c" => some .device
  | "-b" => some .never
  | "-p" => some .never
  | "-S" => some .never
  | "-L" => some .never
  | "-h" => some .never
  | "-t" => some .never
  | _ => none

def isUnary (text : String) : Bool := (fileQuestion? text).isSome || text = "-n" || text = "-z"

def comparison? : String → Option Comparison
  | "-eq" => some .equal
  | "-ne" => some .unequal
  | "-lt" => some .less
  | "-le" => some .lessOrEqual
  | "-gt" => some .greater
  | "-ge" => some .greaterOrEqual
  | _ => none

def isBinary (text : String) : Bool :=
  (comparison? text).isSome || ["=", "!=", "<", ">", "-nt", "-ot", "-ef"].contains text

abbrev Reader : Type := List String → Except String (Condition × List String)

def number (text : String) : Except String Int :=
  let digits := text.toList.dropWhile Ascii.isSpace
  let (negative, digits) :=
    match digits with
    | '-' :: rest => (true, rest)
    | '+' :: rest => (false, rest)
    | rest => (false, rest)
  let digits := (digits.reverse.dropWhile Ascii.isSpace).reverse
  let value : Int := Ascii.number 10 digits
  let value := if negative then -value else value
  if digits.isEmpty || digits.any (!·.isDigit) || Arithmetic.greatest < value || value < Arithmetic.least then
    .error s!"Illegal number: {text}"
  else .ok value

def binary (sign first second : String) : Except String Condition :=
  match comparison? sign with
  | some comparison => do return .compared comparison (← number first) (← number second)
  | none =>
    match sign with
    | "!=" => .ok (.constant (first != second))
    | "<" => .ok (.constant (first < second))
    | ">" => .ok (.constant (second < first))
    | "-ef" => .ok (.same first second)
    | "-nt" => .ok (.constant false)
    | "-ot" => .ok (.constant false)
    | _ => .ok (.constant (first == second))

def unary (sign operand : String) : Condition :=
  match fileQuestion? sign with
  | some question => .asked question operand
  | none => .constant (operand.isEmpty == (sign = "-z"))

/-- An operator is an operand where nothing, or a sign between two operands, follows it. -/
def isOperand : List String → Bool
  | [] => true
  | [_] => false
  | sign :: _ => isBinary sign

mutual

def readEither (fuel : Nat) : Reader := fun arguments =>
  match fuel with
  | 0 => .error "too many arguments"
  | fuel + 1 => do
    let (first, rest) ← readBoth fuel arguments
    match rest with
    | "-o" :: rest => do
      let (second, rest) ← readEither fuel rest
      return (.either first second, rest)
    | rest => return (first, rest)

def readBoth (fuel : Nat) : Reader := fun arguments =>
  match fuel with
  | 0 => .error "too many arguments"
  | fuel + 1 => do
    let (first, rest) ← readOpposite fuel arguments
    match rest with
    | "-a" :: rest => do
      let (second, rest) ← readBoth fuel rest
      return (.both first second, rest)
    | rest => return (first, rest)

def readOpposite (fuel : Nat) : Reader := fun arguments =>
  match fuel, arguments with
  | 0, _ => .error "too many arguments"
  | fuel + 1, "!" :: next :: rest =>
    if isBinary next && !rest.isEmpty then readPrimary fuel arguments
    else do
      let (inner, rest) ← readOpposite fuel (next :: rest)
      return (.opposite inner, rest)
  | fuel + 1, arguments => readPrimary fuel arguments

def readPrimary (fuel : Nat) : Reader := fun arguments =>
  match fuel, arguments with
  | 0, _ => .error "too many arguments"
  | _, [] => .error "argument expected"
  | fuel + 1, first :: rest =>
    if first = "(" && !isOperand rest then do
      let (inner, rest) ← readEither fuel rest
      match rest with
      | ")" :: rest => return (inner, rest)
      | _ => .error "closing paren expected"
    else if isUnary first && !isOperand rest then
      match rest with
      | operand :: rest => .ok (unary first operand, rest)
      | [] => .error s!"{first}: argument expected"
    else
      match rest with
      | sign :: behind =>
        if isBinary sign then
          match behind with
          | second :: rest => do return (← binary sign first second, rest)
          | [] => .error s!"{sign}: argument expected"
        else .ok (.constant (!first.isEmpty), rest)
      | [] => .ok (.constant (!first.isEmpty), [])

end

/-- Arguments that are left over are laid to the last one in front of them. -/
def parse (arguments : List String) : Except String Condition :=
  if arguments.isEmpty then .ok (.constant false)
  else
    match readEither (4 * arguments.length + 4) arguments with
    | .error fault => .error fault
    | .ok (condition, []) => .ok condition
    | .ok (_, extra) =>
      let last := (arguments[arguments.length - extra.length - 1]?).getD ""
      .error s!"{last}: unexpected operator"

open Machine

def evaluate (condition : Condition) (next : Bool → Program) : Program :=
  match condition with
  | constant value => next value
  | compared comparison first second => next (comparison.holds first second)
  | asked question path =>
    .call (.inspect ⟨path⟩) fun
      | .kind kind => next (question.answer (some kind))
      | _ => next false
  | same first second =>
    .call (.locate ⟨first⟩) fun
      | .text place => .call (.locate ⟨second⟩) fun
        | .text other => next (place == other)
        | _ => next false
      | _ => next false
  | opposite inner => inner.evaluate fun value => next (!value)
  | both first second => first.evaluate fun value => if value then second.evaluate next else next false
  | either first second => first.evaluate fun value => if value then next true else second.evaluate next

end Condition

end BuildWatch.Shell
