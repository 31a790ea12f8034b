import BuildWatch.Shell.Format
import BuildWatch.Toolbox.Options

/-! Programs that say what their arguments tell them to, and programs that only answer. -/

namespace BuildWatch.Toolbox

open Machine

/-- Text with its escapes carried out: those of the shell, and characters by their number in base sixteen. -/
def spoken (fuel : Nat) (text : List Char) : List Char × Bool :=
  match fuel, text with
  | 0, _ => ([], false)
  | _, [] => ([], false)
  | fuel + 1, '\\' :: c :: rest =>
    let go (front rest : List Char) : List Char × Bool :=
      let (behind, ended) := spoken fuel rest
      (front ++ behind, ended)
    if c = 'c' then ([], true)
    else if Ascii.isOctal c then
      let digits := ((c :: rest).take (if c = '0' then 4 else 3)).takeWhile Ascii.isOctal
      go [Shell.octalChar digits] ((c :: rest).drop digits.length)
    else if c = 'x' && rest.head?.any Ascii.isHexDigit then
      let digits := (rest.take 2).takeWhile Ascii.isHexDigit
      go [Shell.byteChar (Ascii.number 16 digits)] (rest.drop digits.length)
    else if c = 'e' then go ['\x1b'] rest
    else
      match Shell.simpleEscape? c with
      | some plain => go [plain] rest
      | none => go ['\\', c] rest
  | fuel + 1, c :: rest =>
    let (behind, ended) := spoken fuel rest
    (c :: behind, ended)

/-- Unlike the command of a shell, this one carries escapes out only when it is asked to. -/
def echo : Tool := fun arguments _ =>
  let isSwitch (argument : String) : Bool :=
    match argument.toList with
    | '-' :: letter :: letters => (letter :: letters).all fun letter => letter = 'n' || letter = 'e' || letter = 'E'
    | _ => false
  let switches := arguments.takeWhile isSwitch
  let letters := switches.flatMap String.toList
  let escapes := (letters.reverse.find? fun letter => letter = 'e' || letter = 'E') == some 'e'
  let text := (" ".intercalate (arguments.drop switches.length)).toList
  let (shown, ended) := if escapes then spoken (text.length + 1) text else (text, false)
  let shown := if ended || letters.contains 'n' then shown else shown ++ ['\n']
  writeAndExit "echo" (ByteText.toBytes (String.ofList shown)) 0

/-- How a program words what is wrong with a format. -/
def formatWording : Shell.FormatFault → String
  | .noNumber text => s!"'{text}': expected a numeric value"
  | .longerThanNumber text => s!"'{text}': value not completely converted"
  | .tooLarge text => s!"'{text}': Numerical result out of range"
  | .unknownDirective text => s!"{text}: invalid conversion specification"
  | .unfinished text => s!"{text}: invalid conversion specification"

def printf : Tool := fun arguments _ =>
  match if arguments.head? = some "--" then arguments.tail else arguments with
  | [] => missingOperand "printf"
  | format :: arguments =>
    let printing := Shell.formatted format arguments true
    let faults := printing.faults ++ printing.failure.toList
    let excess :=
      match printing.arguments with
      | extra :: _ =>
        if printing.used || printing.ended || !faults.isEmpty then []
        else [s!"warning: ignoring excess arguments, starting with '{extra}'"]
      | [] => []
    let said := (faults.map formatWording ++ excess).map fun text => s!"printf: {text}\n"
    Program.writeText 2 (String.join said) fun _ => writeAndExit "printf" printing.bytes (if faults.isEmpty then 0 else 1)

def unameTable : OptionTable :=
  { tool := "uname", letters := "asnrvmpio",
    names := [("all", 'a'), ("kernel-name", 's'), ("nodename", 'n'), ("kernel-release", 'r'), ("kernel-version", 'v'),
      ("machine", 'm'), ("operating-system", 'o')] }

/-- What kind of machine this is. -/
def uname : Tool := withOptions unameTable fun given _ =>
  match given.operands with
  | operand :: _ => extraOperand "uname" operand
  | [] =>
    let parts := [('s', "Linux"), ('n', "localhost"), ('r', "6.1.0"), ('v', "#1 SMP"), ('m', "x86_64"), ('o', "GNU/Linux")]
    let isWanted (letter : Char) : Bool := given.has letter || given.has 'a' || (given.options.isEmpty && letter = 's')
    writeLines "uname" [" ".intercalate ((parts.filter fun (letter, _) => isWanted letter).map (·.2))] 0

def idTable : OptionTable :=
  { tool := "id", letters := "aGgnruzZ",
    names := [("user", 'u'), ("group", 'g'), ("groups", 'G'), ("name", 'n'), ("real", 'r')] }

def ownIdentity : Tool := withOptions idTable fun given _ =>
  match given.operands with
  | operand :: _ =>
    if operand = "root" then writeLines "id" ["uid=0(root) gid=0(root) groups=0(root)"] 0
    else refuse "id" s!"'{operand}': no such user"
  | [] =>
    let isBrief := given.has 'u' || given.has 'g' || given.has 'G'
    writeLines "id" [if !isBrief then "uid=0(root) gid=0(root) groups=0(root)" else if given.has 'n' then "root" else "0"] 0

/-- Says one line, whatever it is asked. -/
def fixedAnswer (tool line : String) (code : Nat) : Tool := fun _ _ => writeLines tool [line] code

end BuildWatch.Toolbox
