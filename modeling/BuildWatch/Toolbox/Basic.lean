import BuildWatch.Machine.Program
import BuildWatch.Text.Ascii

/-! What the programs of a toolbox have in common: complaints, numbers, and inputs that are named or come in by
themselves. -/

namespace BuildWatch.Toolbox

open Machine

/-- A program, given its arguments without its own name, and what it is told about its surroundings. -/
abbrev Tool : Type := List String → Environment → Program

def complain (tool text : String) (next : Unit → Program) : Program :=
  Program.writeText 2 s!"{tool}: {text}\n" next

def refuseWith (status : Nat) (tool text : String) : Program := complain tool text fun _ => .exit status

def refuse (tool text : String) : Program := refuseWith 1 tool text

def hint (tool : String) : String := s!"Try '{tool} --help' for more information."

/-- A complaint about how a tool is called. -/
def misuse (status : Nat) (tool text : String) : Program := refuseWith status tool s!"{text}\n{hint tool}"

/-- Writes what there is, and says if that cannot be done. -/
def writeAll (tool : String) (bytes : List UInt8) (next : Bool → Program) : Program :=
  if bytes.isEmpty then next true
  else
    .call (.write 1 bytes) fun
      | .failed fault => complain tool s!"write error: {fault.reason}" fun _ => next false
      | _ => next true

def writeAndExit (tool : String) (bytes : List UInt8) (code : Nat) : Program :=
  writeAll tool bytes fun written => .exit (if written then code else 1)

def writeText (tool text : String) (code : Nat) : Program := writeAndExit tool (ByteText.toBytes text) code

def writeLines (tool : String) (lines : List String) (code : Nat) : Program :=
  writeText tool (String.join (lines.map (· ++ "\n"))) code

def decimal? (text : String) : Option Nat :=
  if text.isEmpty || text.any (!·.isDigit) then none else some (Ascii.number 10 text.toList)

def integer? (text : String) : Option Int :=
  match text.toList with
  | '-' :: digits => (decimal? (String.ofList digits)).map fun value => -(value : Int)
  | '+' :: digits => (decimal? (String.ofList digits)).map fun value => (value : Int)
  | _ => (decimal? text).map fun value => (value : Int)

/-- A number with a unit behind it: thousands in letters with a `B`, powers of 1024 without. -/
def sized? (text : String) : Option Nat :=
  let digits := text.toList.takeWhile Char.isDigit
  let unit := String.ofList (text.toList.drop digits.length)
  let value := Ascii.number 10 digits
  if digits.isEmpty then none
  else
    match unit with
    | "" => some value
    | "b" => some (value * 512)
    | "kB" => some (value * 1000)
    | "KB" => some (value * 1000)
    | "MB" => some (value * 1000000)
    | "GB" => some (value * 1000000000)
    | "k" => some (value * 1024)
    | "K" => some (value * 1024)
    | "KiB" => some (value * 1024)
    | "m" => some (value * 1048576)
    | "M" => some (value * 1048576)
    | "MiB" => some (value * 1048576)
    | "G" => some (value * 1073741824)
    | "GiB" => some (value * 1073741824)
    | _ => none

def padLeft (width : Nat) (text : String) : String := String.ofList (List.replicate (width - text.length) ' ') ++ text

def padRight (width : Nat) (text : String) : String := text ++ String.ofList (List.replicate (width - text.length) ' ')

/-- The descriptor under which a tool opens its inputs. -/
def inputDescriptor : Nat := 3

/-- The contents of named files, and whether all of them could be read. Without a name, or for a dash, it is what
comes in. A fault is worded by the tool. -/
def contentsOr (word : String → FileError → String) (tool : String) (paths : List String)
    (next : List (String × List UInt8) → Bool → Program) : Program :=
  go (if paths.isEmpty then ["-"] else paths) [] true
where
  go : List String → List (String × List UInt8) → Bool → Program
    | [], read, clean => next read.reverse clean
    | "-" :: rest, read, clean => Program.readAll 0 fun bytes => go rest (("-", bytes) :: read) clean
    | path :: rest, read, clean =>
      .call (.openFile inputDescriptor ⟨path⟩ .read) fun
        | .failed fault => complain tool (word path fault) fun _ => go rest read false
        | _ =>
          Program.readAll inputDescriptor fun bytes =>
            Program.perform (.close inputDescriptor) fun _ => go rest ((path, bytes) :: read) clean

def plainWording (path : String) (fault : FileError) : String := s!"{path}: {fault.reason}"

/-- Directories are opened before they turn out to be none that can be read. -/
def openWording (path : String) (fault : FileError) : String :=
  if fault = .isDirectory then s!"error reading '{path}': {fault.reason}"
  else s!"cannot open '{path}' for reading: {fault.reason}"

def contents (tool : String) (paths : List String) (next : List (List UInt8) → Bool → Program) : Program :=
  contentsOr plainWording tool paths fun read clean => next (read.map (·.2)) clean

/-- The content of one input. A tool ends with the first one that cannot be read, with no word about it if it is to be
quiet. -/
def oneContent (tool : String) (status : Nat) (quiet : Bool) (path : String) (next : List UInt8 → Program) : Program :=
  if path = "-" then Program.readAll 0 next
  else
    .call (.openFile inputDescriptor ⟨path⟩ .read) fun
      | .failed fault => if quiet then .exit status else refuseWith status tool (plainWording path fault)
      | _ => Program.readAll inputDescriptor fun bytes => Program.perform (.close inputDescriptor) fun _ => next bytes

/-- Pieces behind each line feed, each with its own. -/
def linesOf (bytes : List UInt8) : List (List UInt8) :=
  go [] bytes
where
  go (held : List UInt8) : List UInt8 → List (List UInt8)
    | [] => if held.isEmpty then [] else [held.reverse]
    | byte :: rest => if byte = 10 then (byte :: held).reverse :: go [] rest else go (byte :: held) rest

def dropLineFeed (line : List UInt8) : List UInt8 := if line.getLast? = some 10 then line.dropLast else line

/-- The lines of a text, without what ends them. -/
def textLines (bytes : List UInt8) : List String := (linesOf bytes).map fun line => ByteText.ofBytes (dropLineFeed line)

/-- Calls on each path in turn, and whether all of them went well. -/
def onEach (tool what : String) (request : Path → Call) (quiet : Bool) (paths : List String) : Program :=
  go paths 0
where
  go : List String → Nat → Program
    | [], code => .exit code
    | path :: rest, code =>
      .call (request ⟨path⟩) fun
        | .failed fault =>
          if quiet then go rest code
          else complain tool s!"{what} '{path}': {fault.reason}" fun _ => go rest 1
        | _ => go rest code

end BuildWatch.Toolbox
