import BuildWatch.Shell.Condition
import BuildWatch.Toolbox.Options

/-! Programs that answer questions about texts, numbers and files with their status. How a question is read depends on
how many arguments are left. -/

namespace BuildWatch.Toolbox

open Machine Shell

/-- A condition, and the arguments behind it. -/
abbrev Question : Type := Except String (Condition × List String)

namespace Question

def isBlank (c : Char) : Bool := c = ' ' || c = '\t'

def isSign (text : String) : Bool := Condition.isBinary text && text != "<" && text != ">" || text = "=="

def isSwitch (text : String) : Bool := text.length = 2 && text.startsWith "-"

def number (text : String) : Except String Int :=
  let body := text.toList.dropWhile isBlank
  let (negative, digits) :=
    match body with
    | '-' :: rest => (true, rest)
    | '+' :: rest => (false, rest)
    | rest => (false, rest)
  let digits := (digits.reverse.dropWhile isBlank).reverse
  let value : Int := Ascii.number 10 digits
  if digits.isEmpty || digits.any (!·.isDigit) then .error s!"invalid integer '{text}'" else .ok (if negative then -value else value)

/-- What is said when arguments come to an end too soon; the last one of all is named. -/
def beyond (last : String) : Question := .error s!"missing argument after '{last}'"

def oneArgument (last : String) : List String → Question
  | [] => beyond last
  | text :: rest => .ok (.constant (!text.isEmpty), rest)

def unary (last sign : String) (rest : List String) : Question :=
  match rest with
  | [] => beyond last
  | operand :: rest =>
    if sign = "-t" then do
      let _ ← number operand
      return (.constant false, rest)
    else if sign = "-n" || sign = "-z" then .ok (Condition.unary sign operand, rest)
    else if (Condition.fileQuestion? sign).isSome then .ok (Condition.unary sign operand, rest)
    else if ["-u", "-g", "-k"].contains sign then .ok (.asked .never operand, rest)
    else if ["-O", "-G", "-N"].contains sign then .ok (.asked .present operand, rest)
    else .error s!"'{sign}': unary operator expected"

/-- A comparison, from its sign on. In front of a text, a switch stands for its length. -/
def relation (last : String) (left : Except String Int) (first sign : String) (rest : List String) : Question :=
  match Condition.comparison? sign, rest with
  | some comparison, "-l" :: text :: rest => do return (.compared comparison (← left) text.utf8ByteSize, rest)
  | some comparison, second :: rest => do return (.compared comparison (← left) (← number second), rest)
  | none, second :: rest => (Condition.binary sign first second).map fun condition => (condition, rest)
  | _, [] => beyond last

def compared (last : String) : List String → Question
  | first :: sign :: rest => relation last (number first) first sign rest
  | _ => beyond last

def negated (question : Question) : Question := question.map fun (condition, rest) => (.opposite condition, rest)

def twoArguments (last : String) : List String → Question
  | "!" :: rest => negated (oneArgument last rest)
  | sign :: rest => if isSwitch sign then unary last sign rest else beyond last
  | [] => beyond last

def closing (question : Question) : Question := do
  match ← question with
  | (condition, ")" :: rest) => return (condition, rest)
  | (_, other :: _) => .error s!"')' expected, found {other}"
  | (_, []) => .error "')' expected"

mutual

def reading (fuel : Nat) (last : String) (count : Nat) (arguments : List String) : Question :=
  match fuel with
  | 0 => beyond last
  | fuel + 1 =>
    match count, arguments with
    | 1, arguments => oneArgument last arguments
    | 2, arguments => twoArguments last arguments
    | 3, arguments => threeArguments fuel last arguments
    | 4, "!" :: rest => if rest.isEmpty then beyond last else negated (threeArguments fuel last rest)
    | 4, "(" :: first :: second :: ")" :: rest => closing (twoArguments last (first :: second :: ")" :: rest))
    | _, arguments => either fuel last arguments

def threeArguments (fuel : Nat) (last : String) (arguments : List String) : Question :=
  match fuel with
  | 0 => beyond last
  | fuel + 1 =>
    match arguments with
    | first :: sign :: third :: rest =>
      if isSign sign then compared last arguments
      else if first = "!" then negated (twoArguments last (sign :: third :: rest))
      else if first = "(" && third = ")" then closing (oneArgument last (sign :: third :: rest))
      else if sign = "-a" || sign = "-o" then either fuel last arguments
      else .error s!"'{sign}': binary operator expected"
    | _ => beyond last

def either (fuel : Nat) (last : String) (arguments : List String) : Question :=
  match fuel with
  | 0 => beyond last
  | fuel + 1 => do
    let (first, rest) ← both fuel last arguments
    match rest with
    | "-o" :: rest =>
      let (second, rest) ← either fuel last rest
      return (.either first second, rest)
    | rest => return (first, rest)

def both (fuel : Nat) (last : String) (arguments : List String) : Question :=
  match fuel with
  | 0 => beyond last
  | fuel + 1 => do
    let (first, rest) ← term fuel last arguments
    match rest with
    | "-a" :: rest =>
      let (second, rest) ← both fuel last rest
      return (.both first second, rest)
    | rest => return (first, rest)

def term (fuel : Nat) (last : String) (arguments : List String) : Question :=
  match fuel with
  | 0 => beyond last
  | fuel + 1 =>
    match arguments with
    | [] => beyond last
    | "!" :: rest => negated (term fuel last rest)
    | "(" :: rest =>
      let ahead := (rest.drop 1).takeWhile (· != ")")
      let count := if 3 ≤ ahead.length then rest.length else ahead.length + 1
      if rest.isEmpty then beyond last else closing (reading fuel last count rest)
    | first :: rest =>
      let size : Int := (rest.headD "").utf8ByteSize
      if first = "-l" && 3 ≤ rest.length && ((rest.drop 1).head?).any isSign then
        relation last (.ok size) first ((rest.drop 1).headD "") (rest.drop 2)
      else if 2 ≤ rest.length && rest.head?.any isSign then compared last arguments
      else if isSwitch first then unary last first rest
      else .ok (.constant (!first.isEmpty), rest)

end

def parse (arguments : List String) : Except String Condition :=
  if arguments.isEmpty then .ok (.constant false)
  else
    match reading (8 * arguments.length + 8) ((arguments.getLast?).getD "") arguments.length arguments with
    | .error fault => .error fault
    | .ok (condition, []) => .ok condition
    | .ok (_, extra :: _) => .error s!"extra argument '{extra}'"

end Question

def answer (tool : String) (arguments : List String) : Program :=
  match Question.parse arguments with
  | .error fault => refuseWith 2 tool fault
  | .ok condition => condition.evaluate fun value => .exit (if value then 0 else 1)

def test : Tool := fun arguments _ => answer "test" arguments

def bracket : Tool := fun arguments _ =>
  if arguments.getLast? = some "]" then answer "[" arguments.dropLast else refuseWith 2 "[" "missing ']'"

end BuildWatch.Toolbox
