import BuildWatch.Toolbox.Paths

/-! Programs that make, change, copy and remove files. -/

namespace BuildWatch.Toolbox

open Machine

def touchTable : OptionTable := { tool := "touch", letters := "acd:fhmr:t:", names := [("no-create", 'c'), ("date", 'd'), ("reference", 'r')] }

def touch : Tool := withOptions touchTable fun given _ =>
  if given.operands.isEmpty then misuse 1 "touch" "missing file operand"
  else if given.has 'c' then .exit 0
  else onEach "touch" "cannot touch" .touch false given.operands

def rmTable : OptionTable :=
  { tool := "rm", letters := "dfiIrRv", names := [("force", 'f'), ("recursive", 'r'), ("dir", 'd'), ("verbose", 'v')] }

/-- What visits of all paths find, one behind the other. -/
def visitAll (visit : String → (List (String × Bool) → Program) → Program) :
    List String → List (String × Bool) → (List (String × Bool) → Program) → Program
  | [], found, next => next found
  | path :: rest, found, next => visit path fun inner => visitAll visit rest (found ++ inner) next

/-- Everything in a directory, and the directory itself behind it. -/
def contentsOf (fuel : Nat) (path : String) (next : List (String × Bool) → Program) : Program :=
  match fuel with
  | 0 => next [(path, true)]
  | fuel + 1 =>
    .call (.entries ⟨path⟩) fun
      | .names names =>
        visitAll (contentsOf fuel) (names.map fun name => path ++ "/" ++ name) [] fun inner => next (inner ++ [(path, true)])
      | _ => next [(path, false)]

def rm : Tool := withOptions rmTable fun given _ =>
  let isDeep := given.has 'r' || given.has 'R'
  let rec go : List String → Nat → Program
    | [], code => .exit code
    | path :: rest, code =>
      let removed (kinds : List (String × Bool)) : Program :=
        let lines := kinds.map fun (path, isDirectory) => if isDirectory then s!"removed directory '{path}'\n" else s!"removed '{path}'\n"
        writeAll "rm" (ByteText.toBytes (if given.has 'v' then String.join lines else "")) fun _ =>
          Program.perform (.remove ⟨path⟩) fun _ => go rest code
      let fault (text : String) : Program := complain "rm" s!"cannot remove '{path}': {text}" fun _ => go rest 1
      let name := String.ofList (lastName path.toList)
      .call (.inspect ⟨path⟩) fun
        | .kind .directory =>
          if (isDeep || given.has 'd') && (name = "." || name = "..") then
            complain "rm" s!"refusing to remove '.' or '..' directory: skipping '{path}'" fun _ => go rest 1
          else if isDeep then contentsOf 1000 path removed
          else if given.has 'd' then
            .call (.entries ⟨path⟩) fun
              | .names [] => removed [(path, true)]
              | _ => fault "Directory not empty"
          else fault FileError.isDirectory.reason
        | .kind _ => removed [(path, false)]
        | .failed reason => if given.has 'f' && (reason = .notFound || reason = .notDirectory) then go rest code else fault reason.reason
        | _ => go rest code
  if given.operands.isEmpty && !given.has 'f' then missingOperand "rm" else go given.operands 0

def unlink : Tool := withOptions { tool := "unlink", letters := "" } fun given _ =>
  match given.operands with
  | [] => missingOperand "unlink"
  | [path] =>
    .call (.inspect ⟨path⟩) fun
      | .kind .directory => refuse "unlink" s!"cannot unlink '{path}': {FileError.isDirectory.reason}"
      | .failed fault => refuse "unlink" s!"cannot unlink '{path}': {fault.reason}"
      | _ => Program.perform (.remove ⟨path⟩) fun _ => .exit 0
  | _ :: extra :: _ => extraOperand "unlink" extra

def rmdirTable : OptionTable :=
  { tool := "rmdir", letters := "pvi", names := [("parents", 'p'), ("verbose", 'v'), ("ignore-fail-on-non-empty", 'i')] }

def rmdir : Tool := withOptions rmdirTable fun given _ =>
  let rec go : List String → Nat → Program
    | [], code => .exit code
    | path :: rest, code =>
      let fault (text : String) : Program := complain "rmdir" s!"failed to remove '{path}': {text}" fun _ => go rest 1
      .call (.entries ⟨path⟩) fun
        | .names [] => Program.perform (.remove ⟨path⟩) fun _ => go rest code
        | .names _ => if given.has 'i' then go rest code else fault "Directory not empty"
        | .failed reason => fault reason.reason
        | _ => go rest code
  let chains := given.operands.flatMap fun path => if given.has 'p' then ancestors path.length path else [path]
  if given.operands.isEmpty then missingOperand "rmdir" else go chains 0
where
  ancestors : Nat → String → List String
    | 0, path => [path]
    | fuel + 1, path => if path = "." || path = "/" then [] else path :: ancestors fuel (directoryOf path)

/-- All leading parts of a path, shortest first. -/
def leadingPaths (path : String) : List String :=
  let pieces := (Path.segments path.toList).map String.ofList
  (List.range pieces.length).filterMap fun count =>
    let front := "/".intercalate (pieces.take (count + 1))
    if front.isEmpty then none else some front

def mkdirTable : OptionTable :=
  { tool := "mkdir", letters := "m:pvZ", names := [("mode", 'm'), ("parents", 'p'), ("verbose", 'v')] }

/-- Makes directories one after the other, those above the last one only if they are not there. -/
def makeDirectories (given : Given) : List String → (Bool → Program) → Program
  | [], next => next true
  | path :: rest, next =>
    let fault (reason : FileError) : Program :=
      complain "mkdir" s!"cannot create directory '{path}': {reason.reason}" fun _ => next false
    .call (.makeDirectory ⟨path⟩) fun
      | .failed .alreadyThere =>
        if !given.has 'p' then fault .alreadyThere
        else
          .call (.inspect ⟨path⟩) fun
            | .kind .directory => makeDirectories given rest next
            | _ => fault (if rest.isEmpty then .alreadyThere else .notDirectory)
      | .failed reason => fault reason
      | _ =>
        writeAll "mkdir" (ByteText.toBytes (if given.has 'v' then s!"mkdir: created directory '{path}'\n" else "")) fun _ =>
          makeDirectories given rest next

def mkdir : Tool := withOptions mkdirTable fun given _ =>
  let rec go : List String → Nat → Program
    | [], code => .exit code
    | path :: rest, code =>
      let paths := if given.has 'p' then leadingPaths path else [path]
      makeDirectories given paths fun made => go rest (if made then code else 1)
  if given.operands.isEmpty then missingOperand "mkdir" else go given.operands 0

/-- Whether a mode allows execution, and whether it says anything about that. -/
def modeOf? (mode : String) : Option (Option Bool) :=
  if !mode.isEmpty && mode.all Ascii.isOctal then some (some (Ascii.number 8 mode.toList / 64 % 2 = 1))
  else (mode.splitOn ",").foldlM clause none
where
  clause (held : Option Bool) (text : String) : Option (Option Bool) :=
    let who := text.toList.takeWhile fun c => "ugoa".toList.contains c
    match text.toList.drop who.length with
    | sign :: letters =>
      if !"+-=".toList.contains sign || letters.any fun c => !"rwxXst".toList.contains c then none
      else
        let concerns := who.isEmpty || who.contains 'u' || who.contains 'a'
        let names := letters.contains 'x'
        if !concerns then some held
        else if sign = '=' then some (some names)
        else if names then some (some (sign = '+'))
        else some held
    | [] => none

def chmod : Tool := fun arguments _ =>
  let names := ["--", "--recursive", "--verbose", "--silent", "--quiet", "--changes", "--preserve-root", "--no-preserve-root"]
  let isOption (text : String) : Bool := names.contains text || ["-R", "-v", "-f", "-c"].contains text
  let operands := arguments.filter fun argument => !isOption argument
  match operands.find? (·.startsWith "--"), operands with
  | some name, _ => misuse 1 "chmod" s!"unrecognized option '{name}'"
  | none, [] => missingOperand "chmod"
  | none, [mode] => misuse 1 "chmod" s!"missing operand after '{mode}'"
  | none, mode :: paths =>
    match modeOf? mode with
    | none => misuse 1 "chmod" s!"invalid mode: '{mode}'"
    | some none => onEach "chmod" "cannot access" .inspect false paths
    | some (some allowed) => onEach "chmod" "cannot access" (fun path => .allowExecution path allowed) false paths

/-- The path of a copy: below a directory it keeps its name. -/
def landingPath (plain : Bool) (source target : String) (next : String → Program) : Program :=
  if plain then next target
  else
    .call (.inspect ⟨target⟩) fun
      | .kind .directory =>
        next ((if target.endsWith "/" then target else target ++ "/") ++ String.ofList (lastName source.toList))
      | _ => next target

/-- Copies a file whose path and whose copy's path are known. -/
def copyFile (tool source target : String) (allowed : Bool) (next : Bool → Program) : Program :=
  .call (.openFile 3 ⟨source⟩ .read) fun
    | .failed fault => complain tool s!"cannot open '{source}' for reading: {fault.reason}" fun _ => next false
    | _ =>
      Program.readAll 3 fun bytes =>
        .call (.openFile 4 ⟨target⟩ .write) fun
          | .failed .isDirectory => complain tool s!"cannot overwrite directory '{target}' with non-directory" fun _ => next false
          | .failed fault => complain tool s!"cannot create regular file '{target}': {fault.reason}" fun _ => next false
          | _ => Program.performAll [.write 4 bytes, .close 3, .close 4, .allowExecution ⟨target⟩ allowed] fun _ => next true

/-- Whether all of several things went well; each is tried. -/
def tryAll (attempt : String → (Bool → Program) → Program) : List String → Bool → (Bool → Program) → Program
  | [], fine, next => next fine
  | name :: rest, fine, next => attempt name fun done => tryAll attempt rest (fine && done) next

/-- Copies a file, or a directory with everything in it. -/
def copyTree (tool : String) (fuel : Nat) (source target : String) (next : Bool → Program) : Program :=
  match fuel with
  | 0 => next false
  | fuel + 1 =>
    let below (names : List String) : Program :=
      tryAll (fun name => copyTree tool fuel (source ++ "/" ++ name) (target ++ "/" ++ name)) names true next
    .call (.inspect ⟨source⟩) fun
      | .kind .directory =>
        .call (.entries ⟨source⟩) fun
          | .names names =>
            .call (.makeDirectory ⟨target⟩) fun
              | .failed .alreadyThere => below names
              | .failed fault => complain tool s!"cannot create directory '{target}': {fault.reason}" fun _ => next false
              | _ => below names
          | _ => next false
      | .kind (.file _ allowed) => copyFile tool source target allowed next
      | .kind .device => copyFile tool source target false next
      | .failed fault => complain tool s!"cannot stat '{source}': {fault.reason}" fun _ => next false
      | _ => next false

/-- Two paths that lead to the same file. -/
def areSame (first second : String) (next : Bool → Program) : Program :=
  .call (.locate ⟨first⟩) fun
    | .text a =>
      .call (.locate ⟨second⟩) fun
        | .text b => next (a = b)
        | _ => next false
    | _ => next false

/-- The sources and the target of a copy. -/
def copyOperands (tool : String) (given : Given) (next : List String → String → Program) : Program :=
  let (sources, target) : List String × Option String :=
    match given.value? 't' with
    | some target => (given.operands, some target)
    | none => (given.operands.dropLast, given.operands.getLast?)
  match sources, target with
  | _, none => misuse 1 tool "missing file operand"
  | [], some only => misuse 1 tool s!"missing destination file operand after '{only}'"
  | [source], some target => next [source] target
  | sources, some target =>
    .call (.inspect ⟨target⟩) fun
      | .kind .directory => next sources target
      | .failed fault => refuse tool s!"target '{target}': {fault.reason}"
      | _ => refuse tool s!"target '{target}': {FileError.notDirectory.reason}"

def cpTable : OptionTable :=
  { tool := "cp", letters := "abdfiHlLnPpRrst:TuvxZ",
    names := [("archive", 'a'), ("force", 'f'), ("no-clobber", 'n'), ("recursive", 'r'), ("target-directory", 't'),
      ("no-target-directory", 'T'), ("verbose", 'v')] }

def cp : Tool := withOptions cpTable fun given _ =>
  copyOperands "cp" given fun sources target =>
    let isDeep := given.has 'r' || given.has 'R' || given.has 'a'
    let rec go : List String → Nat → Program
      | [], code => .exit code
      | source :: rest, code =>
        .call (.inspect ⟨source⟩) fun
          | .failed fault => complain "cp" s!"cannot stat '{source}': {fault.reason}" fun _ => go rest 1
          | .kind .directory =>
            if !isDeep then complain "cp" s!"-r not specified; omitting directory '{source}'" fun _ => go rest 1
            else landingPath (given.has 'T') source target fun place => copy source place (go rest) code
          | _ =>
            landingPath (given.has 'T') source target fun place =>
              areSame source place fun same =>
                if same then complain "cp" s!"'{source}' and '{place}' are the same file" fun _ => go rest 1
                else
                  .call (.inspect ⟨place⟩) fun
                    | .kind _ => if given.has 'n' then go rest code else copy source place (go rest) code
                    | _ => copy source place (go rest) code
    go sources 0
where
  copy (source place : String) (next : Nat → Program) (code : Nat) : Program :=
    copyTree "cp" 1000 source place fun copied => next (if copied then code else 1)

def mvTable : OptionTable :=
  { tool := "mv", letters := "bfint:TuvZ",
    names := [("force", 'f'), ("no-clobber", 'n'), ("target-directory", 't'), ("no-target-directory", 'T'), ("verbose", 'v')] }

def mv : Tool := withOptions mvTable fun given _ =>
  copyOperands "mv" given fun sources target =>
    let rec go : List String → Nat → Program
      | [], code => .exit code
      | source :: rest, code =>
        .call (.inspect ⟨source⟩) fun
          | .failed fault => complain "mv" s!"cannot stat '{source}': {fault.reason}" fun _ => go rest 1
          | _ =>
            landingPath (given.has 'T') source target fun place =>
              areSame source place fun same =>
                if same then complain "mv" s!"'{source}' and '{place}' are the same file" fun _ => go rest 1
                else
                  let move : Program :=
                    copyTree "mv" 1000 source place fun copied =>
                      if copied then
                        writeAll "mv" (ByteText.toBytes (if given.has 'v' then s!"renamed '{source}' -> '{place}'\n" else "")) fun _ =>
                          Program.perform (.remove ⟨source⟩) fun _ => go rest code
                      else go rest 1
                  .call (.inspect ⟨place⟩) fun
                    | .kind _ => if given.has 'n' then go rest code else move
                    | _ => move
    go sources 0

def lnTable : OptionTable :=
  { tool := "ln", letters := "bdfFiLnPrst:Tv", names := [("symbolic", 's'), ("force", 'f'), ("verbose", 'v')] }

/-- Another name for a file gets a copy of it. -/
def ln : Tool := withOptions lnTable fun given _ =>
  match given.operands with
  | [] => misuse 1 "ln" "missing file operand"
  | [source] => link given source "."
  | source :: target :: _ => link given source target
where
  link (given : Given) (source target : String) : Program :=
    landingPath (given.has 'T' || given.has 'n') source target fun place =>
      .call (.inspect ⟨place⟩) fun
        | .kind _ =>
          if given.has 'f' then copyTree "ln" 1000 source place fun copied => .exit (if copied then 0 else 1)
          else
            let kind := if given.has 's' then "symbolic" else "hard"
            refuse "ln" s!"failed to create {kind} link '{place}': File exists"
        | _ =>
          .call (.inspect ⟨source⟩) fun
            | .kind _ => copyTree "ln" 1000 source place fun copied => .exit (if copied then 0 else 1)
            | .failed fault => if given.has 's' then .exit 0 else refuse "ln" s!"failed to access '{source}': {fault.reason}"
            | _ => .exit 0

def mktempTable : OptionTable :=
  { tool := "mktemp", letters := "dp:qtu", names := [("directory", 'd'), ("dry-run", 'u'), ("quiet", 'q'), ("tmpdir", 'p')] }

/-- A new file or directory, with a name that nobody else has. -/
def mktemp : Tool := withOptions mktempTable fun given environment =>
  let base := ((given.value? 'p').orElse fun _ => (environment.find? (·.1 == "TMPDIR")).map (·.2)).getD "/tmp"
  let template := given.operands.head?.getD "tmp.XXXXXXXXXX"
  let template := if given.operands.isEmpty || given.has 'p' || given.has 't' then base ++ "/" ++ template else template
  let stem := (template.toList.reverse.dropWhile (· = 'X')).reverse
  let count := template.length - stem.length
  if 1 < given.operands.length then misuse 1 "mktemp" "too many templates"
  else if count < 3 then refuse "mktemp" s!"too few X's in template '{template}'"
  else
    .call .processNumber fun
      | .number process =>
        let digits := Nat.toDigits 16 (process * 7919 + 12345)
        let path := String.ofList (stem ++ (List.replicate (count - digits.length) 'q' ++ digits).take count)
        .call (if given.has 'd' then .makeDirectory ⟨path⟩ else .touch ⟨path⟩) fun
          | .failed fault =>
            let kind := if given.has 'd' then "directory" else "file"
            refuse "mktemp" s!"failed to create {kind} via template '{template}': {fault.reason}"
          | _ => writeLines "mktemp" [path] 0
      | _ => .exit 1

def truncate : Tool := withOptions { tool := "truncate", letters := "cs:r:o", names := [("size", 's')] } fun given _ =>
  match (given.value? 's').map sized?, given.operands with
  | none, _ => misuse 1 "truncate" "you must specify either '--size' or '--reference'"
  | some none, _ => refuse "truncate" ("Invalid number: '" ++ (given.value? 's').getD "" ++ "'")
  | _, [] => misuse 1 "truncate" "missing file operand"
  | some (some size), paths =>
    let rec go : List String → Nat → Program
      | [], code => .exit code
      | path :: rest, code =>
        .call (.openFile 3 ⟨path⟩ .read) fun opened =>
          let write (held : List UInt8) : Program :=
            .call (.openFile 4 ⟨path⟩ .write) fun
              | .failed fault => complain "truncate" s!"cannot open '{path}' for writing: {fault.reason}" fun _ => go rest 1
              | _ =>
                let bytes := held.take size ++ List.replicate (size - held.length) 0
                Program.performAll [.write 4 bytes, .close 3, .close 4] fun _ => go rest code
          match opened with
          | .failed _ => write []
          | _ => Program.readAll 3 write
    go paths 0

end BuildWatch.Toolbox
