import BuildWatch.Rehearsal.Session

/-! The command line. It rehearses a run on a copy of the current directory: what has been printed is passed on after
each line of input, and at the end the exit code is that of the run. -/

namespace BuildWatch.Rehearsal

open Machine

/-- How deep a copy of a directory goes. -/
def copyDepth : Nat := 16

/-- A file as a machine sees it; what begins like a script may be executed. -/
def nodeOf (content : ByteArray) : Node :=
  let bytes := content.toList
  .file bytes (bytes.take 2 == Utf8.encode "#!")

/-- What cannot be read is left out of a copy. -/
def copyEntry (fuel : Nat) (entry : IO.FS.DirEntry) : IO (List (String × Node)) :=
  match fuel with
  | 0 => return []
  | fuel + 1 => do
    try
      if ← entry.path.isDir then
        let entries ← entry.path.readDir
        let nodes ← entries.toList.mapM fun inner => copyEntry fuel inner
        return [(entry.fileName, .directory nodes.flatten)]
      else return [(entry.fileName, nodeOf (← IO.FS.readBinFile entry.path))]
    catch _ => return []

/-- Names from the root to an absolute path. -/
def placeOf (path : String) : Location := FileTree.names [] ⟨path⟩

def copyFile (path : String) (tree : FileTree) : IO FileTree := do
  try
    return tree.put (placeOf path) (nodeOf (← IO.FS.readBinFile path))
  catch _ => return tree

/-- The variables that a run looks at. -/
def variableNames : List String := ["HOME", "XDG_CONFIG_HOME", Agent.logVariable]

def readEnvironment : IO Environment := do
  let given ← variableNames.mapM fun name => do return (name, ← IO.getEnv name)
  return given.filterMap fun (name, value) => value.map fun value => (name, value)

def valueIn (environment : Environment) (name : String) : Option String :=
  (environment.find? (·.1 == name)).map (·.2)

/-- The current directory and the settings of the user. -/
def copySurroundings (environment : Environment) : IO (FileTree × Location) := do
  let directory ← IO.currentDir
  let entries ← directory.readDir
  let nodes ← entries.toList.mapM fun entry => copyEntry copyDepth entry
  let place := placeOf directory.toString
  let tree := furnished.put place (.directory nodes.flatten)
  let home : Path := ⟨(valueIn environment "HOME").getD "/"⟩
  let user := Settings.userDirectory ((valueIn environment "XDG_CONFIG_HOME").map Path.mk) home
  return (← copyFile (user.join Settings.userFile).text tree, place)

/-- Passes on what has been printed. -/
def passOn (session : Session) : IO Session := do
  let (session, output, error) := session.collect
  let standard ← IO.getStdout
  standard.write ⟨output.toArray⟩
  standard.flush
  let errors ← IO.getStderr
  errors.write ⟨error.toArray⟩
  errors.flush
  return session

def passOnOutcome (outcome : Session.Outcome) : IO UInt32 := do
  (← IO.getStdout).write ⟨outcome.rest.toArray⟩
  (← IO.getStderr).write ⟨outcome.error.toArray⟩
  return UInt32.ofNat (outcome.exitCode.getD 1)

/-- The bytes of the next line of input, with its line feed; none at the end of the input. -/
partial def nextLine (held : List UInt8) : IO (List UInt8) := do
  let bytes ← (← IO.getStdin).read 1
  match bytes.toList with
  | [] => return held.reverse
  | byte :: _ => if byte = LineStream.lineFeed then return (byte :: held).reverse else nextLine (byte :: held)

/-- One line of input after the other, up to the end of the input or of the run. -/
partial def converse (session : Session) : IO UInt32 := do
  let session ← passOn session.linger
  if session.hasEnded then passOnOutcome session.finish
  else
    let line ← nextLine []
    if line.isEmpty then passOnOutcome session.finish else converse (session.write line)

end BuildWatch.Rehearsal

open BuildWatch.Rehearsal in
def main (arguments : List String) : IO UInt32 := do
  let environment ← readEnvironment
  let (tree, place) ← copySurroundings environment
  converse (Session.begin tree place environment arguments)
