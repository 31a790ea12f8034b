import BuildWatch.Path

/-! A tree of directories and files, and how paths are looked up in it. Every step of a path has to
start in a directory, so an up step out of a missing directory leads nowhere. -/

namespace BuildWatch

/-- A device keeps nothing of what is written to it. -/
inductive Device where
  /-- Has nothing to read. -/
  | void
  /-- Has zeros to read, without an end. -/
  | zeros
  /-- Stands for what a process has open under a number. -/
  | descriptor (number : Nat)
  deriving DecidableEq, Inhabited

inductive Node where
  | directory (entries : List (String × Node))
  | file (content : List UInt8) (executable : Bool)
  | device (device : Device)
  deriving Inhabited

/-- Why a file operation fails. -/
inductive FileError where
  | notFound
  | notDirectory
  | isDirectory
  | notPermitted
  | nameTooLong
  | brokenPipe
  | unknownFormat
  | badDescriptor
  | alreadyThere
  | tooManyLinks
  | argumentsTooLong
  /-- A text that is given to a new process has a NUL in it. -/
  | holdsNul
  deriving DecidableEq, Inhabited

namespace FileError

def reason : FileError → String
  | notFound => "No such file or directory"
  | notDirectory => "Not a directory"
  | isDirectory => "Is a directory"
  | notPermitted => "Permission denied"
  | nameTooLong => "File name too long"
  | brokenPipe => "Broken pipe"
  | unknownFormat => "Exec format error"
  | badDescriptor => "Bad file descriptor"
  | alreadyThere => "File exists"
  | tooManyLinks => "Too many levels of symbolic links"
  | argumentsTooLong => "Argument list too long"
  | holdsNul => "nul byte found in provided data"

/-- The number of a fault that the system itself has found. -/
def number? : FileError → Option Nat
  | notFound => some 2
  | argumentsTooLong => some 7
  | unknownFormat => some 8
  | badDescriptor => some 9
  | notPermitted => some 13
  | alreadyThere => some 17
  | notDirectory => some 20
  | isDirectory => some 21
  | brokenPipe => some 32
  | nameTooLong => some 36
  | tooManyLinks => some 40
  | holdsNul => none

def message (fault : FileError) : String :=
  match fault.number? with
  | some number => s!"{fault.reason} (os error {number})"
  | none => fault.reason

end FileError

namespace Node

def isDirectory : Node → Bool
  | directory _ => true
  | _ => false

def isFile : Node → Bool
  | file _ _ => true
  | _ => false

def entry? (name : String) : Node → Option Node
  | directory entries => (entries.find? (·.1 == name)).map (·.2)
  | _ => none

/-- The node under a list of names, outermost first. -/
def get? : Node → List String → Option Node
  | node, [] => some node
  | node, name :: rest => (node.entry? name).bind (·.get? rest)

def replace (name : String) (node : Node) : List (String × Node) → List (String × Node)
  | [] => [(name, node)]
  | (other, held) :: rest =>
    if other = name then (name, node) :: rest else (other, held) :: replace name node rest

/-- Puts a node at a list of names; directories on the way are made, and whatever else stands
in their place gives way. -/
def put (node : Node) : List String → Node → Node
  | [], _ => node
  | name :: rest, directory entries =>
    let below := ((entries.find? (·.1 == name)).map (·.2)).getD (directory [])
    directory (replace name (put node rest below) entries)
  | name :: rest, _ => directory [(name, put node rest (directory []))]

def remove : List String → Node → Node
  | [], node => node
  | [name], directory entries => directory (entries.filter (·.1 != name))
  | name :: rest, directory entries =>
    directory (entries.map fun (other, held) => if other = name then (other, remove rest held) else (other, held))
  | _, node => node

end Node

/-- Names from the root, outermost first. -/
abbrev Location := List String

structure FileTree where
  root : Node := .directory []
  deriving Inhabited

namespace FileTree

/-- The greatest number of bytes in a name. -/
def nameLimit : Nat := 255

/-- The greatest number of bytes in a path. -/
def pathLimit : Nat := 4095

/-- One step of a path from a place in the tree. -/
def step (tree : FileTree) (place : Location) (segment : List Char) : Except FileError Location :=
  match tree.root.get? place with
  | none => .error .notFound
  | some node =>
    if !node.isDirectory then .error .notDirectory
    else if segment.isEmpty || segment == ['.'] then .ok place
    else if segment == ['.', '.'] then .ok place.dropLast
    else
      let name := String.ofList segment
      if nameLimit < name.utf8ByteSize then .error .nameTooLong
      else if (node.entry? name).isSome then .ok (place ++ [name])
      else .error .notFound

def walk (tree : FileTree) : Location → List (List Char) → Except FileError Location
  | place, [] => .ok place
  | place, segment :: rest =>
    match tree.step place segment with
    | .error fault => .error fault
    | .ok place => tree.walk place rest

/-- The place a path leads to from a current directory. The empty path leads nowhere. -/
def locate (tree : FileTree) (current : Location) (path : Path) : Except FileError Location :=
  if path.text.isEmpty then .error .notFound
  else if pathLimit < path.text.utf8ByteSize then .error .nameTooLong
  else tree.walk (if path.isAbsolute then [] else current) (Path.segments path.text.toList)

def find (tree : FileTree) (current : Location) (path : Path) : Except FileError Node :=
  match tree.locate current path with
  | .error fault => .error fault
  | .ok place => ((tree.root.get? place).map Except.ok).getD (.error .notFound)

def pathExists (tree : FileTree) (current : Location) (path : Path) : Bool := (tree.find current path).isOk

def isFile (tree : FileTree) (current : Location) (path : Path) : Bool :=
  match tree.find current path with
  | .ok node => node.isFile
  | .error _ => false

def isDirectory (tree : FileTree) (current : Location) (path : Path) : Bool :=
  match tree.find current path with
  | .ok node => node.isDirectory
  | .error _ => false

def read (tree : FileTree) (current : Location) (path : Path) : Except FileError (List UInt8) :=
  match tree.find current path with
  | .error fault => .error fault
  | .ok (.directory _) => .error .isDirectory
  | .ok (.file content _) => .ok content
  | .ok (.device _) => .ok []

/-- The place at which a path would make a new entry: the directory in front of its last name has to
be there already. -/
def placeFor (tree : FileTree) (current : Location) (path : Path) : Except FileError Location :=
  match tree.locate current path with
  | .ok place => .ok place
  | .error .nameTooLong => .error .nameTooLong
  | .error fault =>
    let segments := Path.segments path.text.toList
    match segments.getLast? with
    | none => .error fault
    | some name =>
      if name.isEmpty || name == ['.'] || name == ['.', '.'] then .error fault
      else
        match tree.walk (if path.isAbsolute then [] else current) segments.dropLast with
        | .error fault => .error fault
        | .ok place =>
          match tree.step place name with
          | .error .notFound => .ok (place ++ [String.ofList name])
          | .error fault => .error fault
          | .ok place => .ok place

/-- Names on a path, with the directories to be made where they are missing. -/
def names (current : Location) (path : Path) : Location :=
  (Path.segments path.text.toList).foldl
    (fun place segment =>
      if segment.isEmpty || segment == ['.'] then place
      else if segment == ['.', '.'] then place.dropLast
      else place ++ [String.ofList segment])
    (if path.isAbsolute then [] else current)

def put (tree : FileTree) (place : Location) (node : Node) : FileTree := ⟨Node.put node place tree.root⟩

def remove (tree : FileTree) (place : Location) : FileTree := ⟨Node.remove place tree.root⟩

end FileTree

end BuildWatch
