import BuildWatch.Toolbox.Basic

/-! Options of tools: letters behind one dash, and names behind two. They may stand among the other arguments. -/

namespace BuildWatch.Toolbox

open Machine

/-- The options that a tool knows. Behind a letter, one colon stands for an argument that it takes, and two for one that
it may have in the same word. Names stand for letters. -/
structure OptionTable where
  tool : String
  letters : String
  names : List (String × Char) := []
  /-- The status after a wrong call. -/
  failure : Nat := 1
  /-- Options come to an end at the first other argument. -/
  inOrder : Bool := false

/-- The options that were given, first one first, and the other arguments. -/
structure Given where
  options : List (Char × String) := []
  operands : List String := []
  deriving Inhabited

namespace Given

def has (given : Given) (letter : Char) : Bool := given.options.any (·.1 == letter)

/-- The argument of an option, which is the last one if there are several. -/
def value? (given : Given) (letter : Char) : Option String := (given.options.reverse.find? (·.1 == letter)).map (·.2)

def values (given : Given) (letter : Char) : List String := (given.options.filter (·.1 == letter)).map (·.2)

/-- Which of several letters was given last. -/
def last? (given : Given) (letters : String) : Option Char :=
  (given.options.reverse.find? fun (letter, _) => letters.toList.contains letter).map (·.1)

end Given

namespace OptionTable

inductive Need where
  | unknown
  | none
  | some
  | optional
  deriving DecidableEq

def need (table : OptionTable) (letter : Char) : Need :=
  match if letter = ':' then [] else table.letters.toList.dropWhile (· != letter) with
  | [] => .unknown
  | _ :: ':' :: ':' :: _ => .optional
  | _ :: ':' :: _ => .some
  | _ => .none

/-- The options of one word, and the arguments behind it. -/
def readLetters (table : OptionTable) (rest : List String) : List Char → Except String (List (Char × String) × List String)
  | [] => .ok ([], rest)
  | letter :: letters =>
    match table.need letter with
    | .unknown => .error s!"invalid option -- '{letter}'"
    | .optional => .ok ([(letter, String.ofList letters)], rest)
    | .some =>
      if !letters.isEmpty then .ok ([(letter, String.ofList letters)], rest)
      else
        match rest with
        | [] => .error s!"option requires an argument -- '{letter}'"
        | argument :: rest => .ok ([(letter, argument)], rest)
    | .none => do
      let (options, rest) ← readLetters table rest letters
      return ((letter, "") :: options, rest)

/-- The option that a name stands for; the beginning of a name will do if it is the only one. -/
def named? (table : OptionTable) (name : String) : Option (String × Char) :=
  match table.names.find? (·.1 == name) with
  | some found => some found
  | none =>
    match table.names.filter (·.1.startsWith name) with
    | [found] => some found
    | _ => none

def readName (table : OptionTable) (rest : List String) (word : String) :
    Except String (List (Char × String) × List String) :=
  let name := String.ofList (word.toList.takeWhile (· != '='))
  let value := if word.toList.contains '=' then some (String.ofList (word.toList.drop (name.length + 1))) else none
  match table.named? name with
  | none => .error s!"unrecognized option '--{name}'"
  | some (full, letter) =>
    match table.need letter, value, rest with
    | .some, some value, rest => .ok ([(letter, value)], rest)
    | .some, none, argument :: rest => .ok ([(letter, argument)], rest)
    | .some, none, [] => .error s!"option '--{full}' requires an argument"
    | .optional, value, rest => .ok ([(letter, value.getD "")], rest)
    | _, some _, _ => .error s!"option '--{full}' doesn't allow an argument"
    | _, none, rest => .ok ([(letter, "")], rest)

def readAll (table : OptionTable) (fuel : Nat) (arguments : List String) : Except String Given :=
  match fuel, arguments with
  | 0, operands => .ok { operands }
  | _, [] => .ok {}
  | fuel + 1, argument :: rest =>
    let further (read : Except String (List (Char × String) × List String)) : Except String Given := do
      let (options, rest) ← read
      let later ← readAll table fuel rest
      return { later with options := options ++ later.options }
    match argument.toList with
    | ['-', '-'] => .ok { operands := rest }
    | '-' :: '-' :: name => further (table.readName rest (String.ofList name))
    | '-' :: letter :: letters => further (table.readLetters rest (letter :: letters))
    | _ =>
      if table.inOrder then .ok { operands := argument :: rest }
      else do
        let later ← readAll table fuel rest
        return { later with operands := argument :: later.operands }

def read (table : OptionTable) (arguments : List String) : Except String Given :=
  table.readAll (arguments.length + 1) arguments

end OptionTable

/-- A tool with options. -/
def withOptions (table : OptionTable) (body : Given → Environment → Program) : Tool := fun arguments environment =>
  match table.read arguments with
  | .error fault => misuse table.failure table.tool fault
  | .ok given => body given environment

/-- The most usual complaint about operands that are there, or are not. -/
def missingOperand (tool : String) : Program := misuse 1 tool "missing operand"

def extraOperand (tool operand : String) : Program := misuse 1 tool s!"extra operand '{operand}'"

end BuildWatch.Toolbox
