import BuildWatch.Toolbox.Options

/-! Names of files: programs that take paths apart, and programs that say what is where. -/

namespace BuildWatch.Toolbox

open Machine

def dropSlashes (text : List Char) : List Char := (text.reverse.dropWhile (· = '/')).reverse

/-- The last name of a path. -/
def lastName (text : List Char) : List Char :=
  match dropSlashes text with
  | [] => if text.isEmpty then [] else ['/']
  | text => (text.reverse.takeWhile (· != '/')).reverse

/-- The path without its last name. -/
def directoryOf (path : String) : String :=
  let below := dropSlashes path.toList
  let front := (below.reverse.dropWhile (· != '/')).reverse
  if front.isEmpty then (if below.isEmpty && !path.isEmpty then "/" else ".")
  else if (dropSlashes front).isEmpty then "/"
  else String.ofList (dropSlashes front)

def basenameTable : OptionTable :=
  { tool := "basename", letters := "as:z", inOrder := true, names := [("multiple", 'a'), ("suffix", 's'), ("zero", 'z')] }

def basename : Tool := withOptions basenameTable fun given _ =>
  let shown (ending path : String) : String :=
    let name := lastName path.toList
    let ending := ending.toList
    let isShorter := ending.isSuffixOf name && ending.length < name.length
    String.ofList (if isShorter then name.take (name.length - ending.length) else name)
  match given.operands, given.has 'a' || given.has 's' with
  | [], _ => missingOperand "basename"
  | paths, true => writeLines "basename" (paths.map (shown ((given.value? 's').getD ""))) 0
  | [path], false => writeLines "basename" [shown "" path] 0
  | [path, ending], false => writeLines "basename" [shown ending path] 0
  | _ :: _ :: extra :: _, false => extraOperand "basename" extra

def dirname : Tool := withOptions { tool := "dirname", letters := "z", names := [("zero", 'z')] } fun given _ =>
  if given.operands.isEmpty then missingOperand "dirname" else writeLines "dirname" (given.operands.map directoryOf) 0

def pwd : Tool := withOptions { tool := "pwd", letters := "LP", names := [("logical", 'L'), ("physical", 'P')] } fun _ _ =>
  .call .currentDirectory fun
    | .text place => writeLines "pwd" [place] 0
    | _ => .exit 1

/-- The real path of what may not be there itself, but whose directory is. -/
def realPath (path : String) (next : Except FileError String → Program) : Program :=
  .call (.locate ⟨path⟩) fun
    | .text place => next (.ok place)
    | .failed .notFound =>
      .call (.locate ⟨directoryOf path⟩) fun
        | .text place => next (.ok ((if place = "/" then "" else place) ++ "/" ++ String.ofList (lastName path.toList)))
        | .failed fault => next (.error fault)
        | _ => next (.error .notFound)
    | .failed fault => next (.error fault)
    | _ => next (.error .notFound)

def realPaths (tool : String) (quiet : Bool) : List String → Nat → Program
  | [], code => .exit code
  | path :: rest, code =>
    realPath path fun
      | .ok place => writeAll tool (ByteText.toBytes (place ++ "\n")) fun _ => realPaths tool quiet rest code
      | .error fault =>
        if quiet then realPaths tool quiet rest 1
        else complain tool s!"{path}: {fault.reason}" fun _ => realPaths tool quiet rest 1

def realpath : Tool := withOptions { tool := "realpath", letters := "eLmPqsz" } fun given _ =>
  if given.operands.isEmpty then missingOperand "realpath" else realPaths "realpath" (given.has 'q') given.operands 0

/-- No file here is a link, so only the real path of a file can be told. -/
def readlink : Tool := withOptions { tool := "readlink", letters := "efmnqsvz" } fun given _ =>
  if given.operands.isEmpty then missingOperand "readlink"
  else if given.has 'f' || given.has 'e' || given.has 'm' then realPaths "readlink" true given.operands 0
  else .exit 1

def candidatePaths (environment : Environment) (name : String) : List String :=
  if name.toList.contains '/' then [name]
  else
    let search := ((environment.find? (·.1 == "PATH")).map (·.2)).getD "/bin:/usr/bin"
    (search.splitOn ":").map fun directory => (if directory.isEmpty then "." else directory) ++ "/" ++ name

/-- The places of a list at which there is a program. -/
def programsAt : List String → List String → (List String → Program) → Program
  | [], found, next => next found.reverse
  | place :: rest, found, next =>
    .call (.inspect ⟨place⟩) fun
      | .kind (.file _ true) => programsAt rest (place :: found) next
      | _ => programsAt rest found next

def which : Tool := withOptions { tool := "which", letters := "as", failure := 2, inOrder := true } fun given environment =>
  let rec go : List String → Nat → Program
    | [], code => .exit code
    | name :: rest, code =>
      programsAt (candidatePaths environment name) [] fun found =>
        let shown := if given.has 'a' then found else found.take 1
        writeAll "which" (ByteText.toBytes (String.join (shown.map (· ++ "\n")))) fun _ => go rest (if found.isEmpty then 1 else code)
  if given.operands.isEmpty then .exit 1 else go given.operands 0

def lsTable : OptionTable :=
  { tool := "ls", letters := "aAbBcCdDfFgGhHiI:klLmnNopqQrRsStT:uUvw:xXZ1K::", failure := 2,
    names := [("all", 'a'), ("almost-all", 'A'), ("directory", 'd'), ("recursive", 'R'), ("reverse", 'r'), ("color", 'K'),
      ("classify", 'F')] }

/-- What is shown behind a name, by the kind of the file. -/
def kindMark (given : Given) (kind : FileKind) : String :=
  match kind with
  | .directory => if given.has 'F' || given.has 'p' then "/" else ""
  | .file _ true => if given.has 'F' then "*" else ""
  | _ => ""

/-- Names with their marks and sizes. -/
def inspectAll (given : Given) (front : String) : List String → List (String × Nat) → (List (String × Nat) → Program) → Program
  | [], shown, next => next shown.reverse
  | name :: rest, shown, next =>
    .call (.inspect ⟨front ++ name⟩) fun
      | .kind kind =>
        let size :=
          match kind with
          | .file size _ => size
          | _ => 4096
        inspectAll given front rest ((name ++ kindMark given kind, size) :: shown) next
      | _ => inspectAll given front rest ((name, 0) :: shown) next

def arrange (given : Given) (entries : List (String × Nat)) : List String :=
  let ordered := if given.has 'S' then entries.mergeSort fun a b => b.2 ≤ a.2 else entries
  let names := ordered.map (·.1)
  if given.has 'r' then names.reverse else names

def shownNames (given : Given) (names : List String) : String :=
  if given.has 'm' && !names.isEmpty then ", ".intercalate names ++ "\n" else String.join (names.map (· ++ "\n"))

def listDirectories (given : Given) (fuel : Nat) (headed : Bool) (paths : List String) (isFirst : Bool) (code : Nat) : Program :=
  match fuel, paths with
  | 0, _ => .exit 2
  | _, [] => .exit code
  | fuel + 1, path :: rest =>
    .call (.entries ⟨path⟩) fun
      | .names names =>
        let kept := names.filter fun name => given.has 'a' || given.has 'A' || given.has 'f' || !name.startsWith "."
        let names := if given.has 'a' || given.has 'f' then "." :: ".." :: kept else kept
        let front := if path.endsWith "/" then path else path ++ "/"
        inspectAll given front names [] fun entries =>
          let heading := if headed then (if isFirst then "" else "\n") ++ path ++ ":\n" else ""
          writeAll "ls" (ByteText.toBytes (heading ++ shownNames given (arrange given entries))) fun _ =>
            if given.has 'R' then
              subdirectories front kept [] fun found => listDirectories given fuel headed (found ++ rest) false code
            else listDirectories given fuel headed rest false code
      | _ => listDirectories given fuel headed rest isFirst code
where
  subdirectories (front : String) : List String → List String → (List String → Program) → Program
    | [], found, next => next found.reverse
    | name :: rest, found, next =>
      .call (.inspect ⟨front ++ name⟩) fun
        | .kind .directory => subdirectories front rest ((front ++ name) :: found) next
        | _ => subdirectories front rest found next

def ls : Tool := withOptions lsTable fun given _ =>
  let paths := if given.operands.isEmpty then ["."] else given.operands.mergeSort fun a b => !(b < a)
  let rec sortOut : List String → List String → List String → Nat → Program
    | [], files, directories, code =>
      inspectAll given "" files.reverse [] fun entries =>
        writeAll "ls" (ByteText.toBytes (shownNames given (arrange given entries))) fun _ =>
          let headed := 1 < paths.length || given.has 'R'
          let directories := if given.has 'r' then directories else directories.reverse
          listDirectories given Program.rounds headed directories files.isEmpty code
    | path :: rest, files, directories, code =>
      .call (.inspect ⟨path⟩) fun
        | .kind .directory =>
          if given.has 'd' then sortOut rest (path :: files) directories code else sortOut rest files (path :: directories) code
        | .kind _ => sortOut rest (path :: files) directories code
        | .failed fault =>
          complain "ls" s!"cannot access '{path}': {fault.reason}" fun _ => sortOut rest files directories 2
        | _ => sortOut rest files directories code
  sortOut paths [] [] 0

def statTable : OptionTable :=
  { tool := "stat", letters := "Lfc:t", names := [("dereference", 'L'), ("format", 'c'), ("printf", 'p'), ("terse", 't')] }

/-- The text of a file's properties in a format. -/
def statText (path : String) (kind : FileKind) : List Char → List Char
  | '%' :: c :: rest =>
    let (name, size, mode) : String × Nat × String :=
      match kind with
      | .directory => ("directory", 4096, "755")
      | .file size allowed => (if size = 0 then "regular empty file" else "regular file", size, if allowed then "755" else "644")
      | .device => ("character special file", 0, "666")
    let text :=
      match c with
      | 'n' => path
      | 's' => toString size
      | 'F' => name
      | 'a' => mode
      | 'u' => "0"
      | 'g' => "0"
      | 'U' => "root"
      | 'G' => "root"
      | 'h' => "1"
      | '%' => "%"
      | _ => "?"
    text.toList ++ statText path kind rest
  | c :: rest => c :: statText path kind rest
  | [] => []

def stat : Tool := withOptions statTable fun given _ =>
  let format := (given.value? 'c').getD "  File: %n\n  Size: %s\t%F"
  let rec go : List String → Nat → Program
    | [], code => .exit code
    | path :: rest, code =>
      .call (.inspect ⟨path⟩) fun
        | .kind kind =>
          writeAll "stat" (ByteText.toBytes (String.ofList (statText path kind format.toList) ++ "\n")) fun _ => go rest code
        | .failed fault => complain "stat" s!"cannot statx '{path}': {fault.reason}" fun _ => go rest 1
        | _ => go rest code
  if given.operands.isEmpty then missingOperand "stat" else go given.operands 0

end BuildWatch.Toolbox
