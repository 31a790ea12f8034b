import BuildWatch.FileTree
import BuildWatch.Text.ByteText

/-! Executable files. A binary names the program that it holds; a script names its interpreter in its first line.
The arguments of a program are bytes. -/

namespace BuildWatch.Machine

/-- A program and the arguments it is called with, its own name first. -/
structure Image where
  program : String
  arguments : List String
  deriving DecidableEq, Inhabited

namespace Image

/-- What every binary begins with. -/
def mark : List UInt8 := [127, 69, 76, 70]

def binary (program : String) : Node := .file (mark ++ Utf8.encode program) true

/-- How many bytes of a script are looked at. -/
def headSize : Nat := 256

def isBlank (byte : UInt8) : Bool := byte = 32 || byte = 9

/-- Ends the name of an interpreter. -/
def endsName (byte : UInt8) : Bool := isBlank byte || byte = 0

def trimmed (line : List UInt8) : List UInt8 := ((line.dropWhile isBlank).reverse.dropWhile isBlank).reverse

/-- An interpreter and the argument behind it, from a line that has something in it. Blanks inside the argument
belong to it. An interpreter without a name is a directory: the current one. -/
def commandOf (line : List UInt8) : String × List String :=
  let name := line.takeWhile fun byte => !endsName byte
  let argument :=
    match line.drop name.length with
    | 0 :: _ => []
    | rest => (rest.dropWhile isBlank).takeWhile (· != 0)
  (if name.isEmpty then "." else ByteText.ofBytes name, if argument.isEmpty then [] else [ByteText.ofBytes argument])

/-- The interpreter of a script, and what it is given in front of the script. A line that does not end in
time must at least end its interpreter in time. -/
def interpreter? (content : List UInt8) : Option (String × List String) :=
  let head := content.take headSize
  let head := head ++ List.replicate (headSize - head.length) 0
  match head with
  | 35 :: 33 :: body =>
    let line := body.takeWhile fun byte => byte != 10 && byte != 0
    if body[line.length]? == some 10 then
      if line.all isBlank then none else some (commandOf (trimmed line))
    else if ((body.dropWhile isBlank).dropWhile fun byte => !endsName byte).isEmpty then none
    else some (commandOf (trimmed body.dropLast))
  | _ => none

/-- How many files may be on the way to a program: scripts, and the program itself. -/
def depth : Nat := 6

/-- What is run when a file is executed. -/
def ofFile (tree : FileTree) (place : Location) (fuel : Nat) (path : Path) (arguments : List String) :
    Except FileError Image :=
  match tree.find place path with
  | .error fault => .error fault
  | .ok (.directory _) => .error .notPermitted
  | .ok (.device _) => .error .notPermitted
  | .ok (.file content executable) =>
    if !executable then .error .notPermitted
    else
      match fuel with
      | 0 => .error .tooManyLinks
      | fuel + 1 =>
        if content.take mark.length == mark then .ok ⟨Utf8.decodeLossy (content.drop mark.length), arguments⟩
        else
          match interpreter? content with
          | none => .error .unknownFormat
          | some (interpreter, options) =>
            ofFile tree place fuel ⟨ByteText.toText interpreter⟩
              (interpreter :: options ++ ByteText.ofText path.text :: arguments.tail)

/-- The greatest number of bytes in an argument. -/
def argumentLimit : Nat := 131071

/-- Executes the file at a path. -/
def load (tree : FileTree) (place : Location) (path : Path) (arguments : List String) : Except FileError Image :=
  match ofFile tree place depth path arguments with
  | .error fault => .error fault
  | .ok image => if arguments.any (argumentLimit < ·.length) then .error .argumentsTooLong else .ok image

/-- Executes the first file of a name that can be, in the directories of a search path. Only a refusal is remembered. -/
def search (tree : FileTree) (place : Location) (name : String) (arguments : List String) (fault : FileError) :
    List String → Except FileError Image
  | [] => .error fault
  | directory :: rest =>
    match load tree place ⟨if directory.isEmpty then name else directory ++ "/" ++ name⟩ arguments with
    | .error .notPermitted => search tree place name arguments .notPermitted rest
    | .error .notFound => search tree place name arguments fault rest
    | .error .notDirectory => search tree place name arguments fault rest
    | result => result

/-- A name with a slash in it is a path; any other is looked for in the search path. -/
def find (tree : FileTree) (place : Location) (directories : List String) (name : Path) (arguments : List String) :
    Except FileError Image :=
  if name.text.toList.contains '/' then load tree place name arguments
  else if name.text.isEmpty then .error .notFound
  else if FileTree.nameLimit < name.text.utf8ByteSize then .error .nameTooLong
  else search tree place name.text arguments .notFound directories

end Image

end BuildWatch.Machine
