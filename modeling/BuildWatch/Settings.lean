import BuildWatch.FileTree
import BuildWatch.Frame.Decode
import BuildWatch.Target
import BuildWatch.Text.Utf8

/-! Settings in layers: built-in defaults, the user's file, the project's file, and what the command
line says. A later layer overrides an earlier one field by field. -/

namespace BuildWatch

/-- One layer of settings; a field that is not given leaves the layers below alone. -/
structure SettingsLayer where
  executionDirectory : Option String := none
  configFile : Option String := none
  startOnActivation : Option Bool := none
  buildTool : Option String := none
  deriving DecidableEq, Inhabited

structure Settings where
  projectDirectory : Option Path
  executionDirectory : Option String
  configFileName : String
  startOnActivation : Bool
  buildTool : String
  deriving DecidableEq, Inhabited

namespace SettingsLayer
open Json

/-- A value of one kind, where `null` counts as not given. -/
def optional (value : Reader α) : Reader (Option α) := fun given =>
  match skipSpace given with
  | 'n' :: rest => (readWord ['u', 'l', 'l'] rest).map fun (_, rest) => (none, rest)
  | given => (value given).map fun (value, rest) => (some value, rest)

/-- Refuses a value by its kind; containers are not looked into. -/
def refuse (wanted : String) : Reader α := fun given =>
  match skipSpace given with
  | '[' :: rest => .error (.at (.wrongKind (.list []) wanted) ('[' :: rest))
  | '\x7b' :: rest => .error (.at (.wrongKind (.object []) wanted) ('\x7b' :: rest))
  | given =>
    match readPlain given with
    | .error fault => .error fault
    | .ok (value, rest) => .error (.at (.wrongKind value wanted) rest)

def readString : Reader String := fun given =>
  match skipSpace given with
  | '"' :: rest => readText rest
  | given => refuse "a string" given

def readBoolean : Reader Bool := fun given =>
  match skipSpace given with
  | 't' :: rest => (readWord ['r', 'u', 'e'] rest).map fun (_, rest) => (true, rest)
  | 'f' :: rest => (readWord ['a', 'l', 's', 'e'] rest).map fun (_, rest) => (false, rest)
  | given => refuse "a boolean" given

/-- What has been read of a layer. A field that has been given, even as `null`, may not be given again. -/
structure Progress where
  executionDirectory : Slot (Option String) := .missing
  configFile : Slot (Option String) := .missing
  startOnActivation : Slot (Option Bool) := .missing
  buildTool : Slot (Option String) := .missing

def once (name : String) (slot : Slot (Option α)) (value : Reader α) : Reader (Slot (Option α)) := fun given =>
  match slot with
  | .given _ => .error ⟨.duplicateField name, .behindContainer given⟩
  | .missing => do
    let (_, rest) ← readColon given
    let (value, rest) ← optional value rest
    return (.given value, rest)

/-! Fields that no layer knows are passed over without being kept. They may nest as deep as they like,
and their numbers and escapes are only looked at superficially. -/

def skipHex (given : List Char) : Except Fault (List Char) := (readHex given).map (·.2)

def skipText (fuel : Nat) (given : List Char) : Except Fault (List Char) :=
  match fuel, given with
  | _, [] => .error (.at .endInText [])
  | 0, given => .error (.at .endInText given)
  | fuel + 1, c :: rest =>
    if c = '"' then .ok rest
    else if c = '\\' then
      match rest with
      | [] => .error (.at .endInText [])
      | 'u' :: rest => do skipText fuel (← skipHex rest)
      | c :: rest =>
        if (shortEscape? c).isSome then skipText fuel rest else .error (.ahead .invalidEscape (c :: rest))
    else if c.toNat < 0x20 then .error (.at .controlCharacter (c :: rest))
    else skipText fuel rest

def skipExponent (given : List Char) : Except Fault (List Char) :=
  let given :=
    match given with
    | '+' :: rest | '-' :: rest => rest
    | rest => rest
  if startsWithDigit given then .ok (given.dropWhile isDigit) else .error (.ahead .invalidNumber given)

def skipExponent? : List Char → Except Fault (List Char)
  | 'e' :: rest | 'E' :: rest => skipExponent rest
  | rest => .ok rest

def skipNumber (given : List Char) : Except Fault (List Char) :=
  match given with
  | '0' :: rest =>
    if startsWithDigit rest then .error (.ahead .invalidNumber rest) else skipFraction? rest
  | rest =>
    if startsWithDigit rest then skipFraction? (rest.dropWhile isDigit) else .error (.ahead .invalidNumber rest)
where
  skipFraction? : List Char → Except Fault (List Char)
    | '.' :: rest =>
      if startsWithDigit rest then skipExponent? (rest.dropWhile isDigit) else .error (.ahead .invalidNumber rest)
    | rest => skipExponent? rest

def skipPlain : List Char → Except Fault (List Char)
  | [] => .error (.ahead .endInValue [])
  | 'n' :: rest => (readWord ['u', 'l', 'l'] rest).map (·.2)
  | 't' :: rest => (readWord ['r', 'u', 'e'] rest).map (·.2)
  | 'f' :: rest => (readWord ['a', 'l', 's', 'e'] rest).map (·.2)
  | '-' :: rest => skipNumber rest
  | '"' :: rest => skipText (rest.length + 1) rest
  | c :: rest => if isDigit c then skipNumber (c :: rest) else .error (.ahead .expectedValue (c :: rest))

/-- A container that is still open: the list or the object. -/
inductive Enclosure where
  | list
  | object

def Enclosure.endFault : Enclosure → Reason
  | list => .endInList
  | object => .endInObject

def Enclosure.separatorFault : Enclosure → Reason
  | list => .expectedListEnd
  | object => .expectedObjectEnd

def Enclosure.bracket : Enclosure → Char
  | list => ']'
  | object => '\x7d'

/-- A key with its colon. -/
def skipKey (given : List Char) : Except Fault (List Char) :=
  match skipSpace given with
  | [] => .error (.ahead .endInObject [])
  | '"' :: rest => do
    let rest ← skipText (rest.length + 1) rest
    return (← readColon rest).2
  | rest => .error (.ahead .keyNotText rest)

/-- Goes on behind a value or an opening bracket until the text stands before the next value, or
behind the outermost bracket. -/
def leave (fuel : Nat) (enclosures : List Enclosure) (behindValue : Bool) (given : List Char) :
    Except Fault (Option (List Enclosure × List Char) × List Char) :=
  match fuel, enclosures with
  | 0, _ => .ok (none, given)
  | _, [] => .ok (none, given)
  | fuel + 1, enclosure :: outer =>
    let enter (rest : List Char) : Except Fault (Option (List Enclosure × List Char) × List Char) :=
      match enclosure with
      | .list => .ok (some (enclosure :: outer, rest), rest)
      | .object => (skipKey rest).map fun rest => (some (enclosure :: outer, rest), rest)
    match skipSpace given with
    | [] => .error (.ahead enclosure.endFault [])
    | c :: rest =>
      if c = ',' && behindValue then enter rest
      else if c = enclosure.bracket then leave fuel outer true rest
      else if behindValue then .error (.ahead enclosure.separatorFault (c :: rest))
      else enter (c :: rest)

def skipValue (fuel : Nat) (enclosures : List Enclosure) (given : List Char) : Except Fault (List Char) :=
  match fuel with
  | 0 => .error (.at .endInValue given)
  | fuel + 1 => do
    let (enclosures, behindValue, rest) ←
      match skipSpace given with
      | '[' :: rest => pure (Enclosure.list :: enclosures, false, rest)
      | '\x7b' :: rest => pure (Enclosure.object :: enclosures, false, rest)
      | given => do pure (enclosures, true, ← skipPlain given)
    match ← leave (rest.length + 1) enclosures behindValue rest with
    | (none, rest) => return rest
    | (some (enclosures, rest), _) => skipValue fuel enclosures rest

def skipField (given : List Char) : Except Fault (List Char) := do
  let (_, rest) ← readColon given
  skipValue (rest.length + 1) [] rest

def readField (read : Progress) (key : String) : Reader Progress := fun given =>
  if key = "executionDirectory" then
    (once key read.executionDirectory readString given).map fun (slot, rest) =>
      ({ read with executionDirectory := slot }, rest)
  else if key = "configFile" then
    (once key read.configFile readString given).map fun (slot, rest) => ({ read with configFile := slot }, rest)
  else if key = "startOnActivation" then
    (once key read.startOnActivation readBoolean given).map fun (slot, rest) =>
      ({ read with startOnActivation := slot }, rest)
  else if key = "buildTool" then
    (once key read.buildTool readString given).map fun (slot, rest) => ({ read with buildTool := slot }, rest)
  else (skipField given).map fun rest => (read, rest)

def Progress.layer (read : Progress) : SettingsLayer where
  executionDirectory := read.executionDirectory.orElse none
  configFile := read.configFile.orElse none
  startOnActivation := read.startOnActivation.orElse none
  buildTool := read.buildTool.orElse none

/-- The next item of a layer that is written as a list of its four fields. -/
def listed (count : Nat) (value : Reader α) : Reader (Option α) := fun given =>
  match nextItem (count == 0) given with
  | .error fault => .error fault
  | .ok none =>
    .error ⟨.wrongLength count "struct SettingsLayer with 4 elements", .behindContainer given⟩
  | .ok (some given) => optional value given

def readListed : Reader SettingsLayer := fun given => do
  let (executionDirectory, rest) ← listed 0 readString given
  let (configFile, rest) ← listed 1 readString rest
  let (startOnActivation, rest) ← listed 2 readBoolean rest
  let (buildTool, rest) ← listed 3 readString rest
  return (⟨executionDirectory, configFile, startOnActivation, buildTool⟩, rest)

/-- Takes the bracket behind the last of the four fields. -/
def endListed : Reader Unit := fun given =>
  match skipSpace given with
  | [] => .error (.ahead .endInList [])
  | ']' :: rest => .ok ((), rest)
  | ',' :: rest =>
    match skipSpace rest with
    | ']' :: rest => .error (.ahead .trailingComma (']' :: rest))
    | rest => .error (.ahead .trailingText rest)
  | rest => .error (.ahead .trailingText rest)

def readLayer : Reader SettingsLayer := fun given =>
  match skipSpace given with
  | '[' :: rest =>
    match readListed rest with
    | .ok (layer, rest) => (endListed rest).map fun (_, rest) => (layer, rest)
    | .error ⟨reason, .behindContainer rest⟩ => .error (.at reason (close ']' rest))
    | .error fault => .error fault
  | '\x7b' :: rest => (objectOf readField {} rest).map fun (read, rest) => (read.layer, rest)
  | given => refuse "struct SettingsLayer" given

def parse (text : String) : Except String SettingsLayer := decodeText readLayer text

/-- `upper` laid over `lower`. -/
def covering (upper lower : SettingsLayer) : SettingsLayer where
  executionDirectory := upper.executionDirectory.or lower.executionDirectory
  configFile := upper.configFile.or lower.configFile
  startOnActivation := upper.startOnActivation.or lower.startOnActivation
  buildTool := upper.buildTool.or lower.buildTool

end SettingsLayer

/-- A file of settings that cannot be used, with the cause. -/
inductive SettingsError where
  | unreadable (file : Path) (cause : String)
  | invalid (file : Path) (cause : String)

def SettingsError.message : SettingsError → String
  | unreadable file _ => s!"Failed to read settings {file.text}"
  | invalid file _ => s!"Invalid settings file {file.text}"

def SettingsError.cause : SettingsError → String
  | unreadable _ cause => cause
  | invalid _ cause => cause

namespace Settings

def defaultConfigFile : String := "webpack.config.js"

def defaultBuildTool : String := "webpack"

def projectFile : Path := ⟨".watch-runner.json"⟩

def userFile : Path := ⟨"watch-runner/settings.json"⟩

def ofLayers (projectDirectory : Option Path) (layers : List SettingsLayer) : Settings :=
  let merged := layers.foldl (fun lower upper => upper.covering lower) {}
  { projectDirectory
    executionDirectory := merged.executionDirectory
    configFileName := merged.configFile.getD defaultConfigFile
    startOnActivation := merged.startOnActivation.getD true
    buildTool := merged.buildTool.getD defaultBuildTool }

/-- The execution directory, seen from the project; without one, the project itself. -/
def workingDirectory (settings : Settings) : Option Path :=
  match settings.executionDirectory with
  | none | some "" => settings.projectDirectory
  | some directory => some ((settings.projectDirectory.map (·.join ⟨directory⟩)).getD ⟨directory⟩)

/-- An empty name means no file at all. -/
def configFile (settings : Settings) : Option Path :=
  if settings.configFileName.isEmpty then none else some ⟨settings.configFileName⟩

/-- Every field is stated, so a setting that has disappeared clears its field. -/
def toChange (settings : Settings) : TargetChange :=
  ⟨.ofSetting settings.workingDirectory, .ofSetting settings.configFile⟩

/-- Building starts by itself when that is wanted and the configuration file is there. -/
def shouldAutostart (settings : Settings) (pathExists : Path → Bool) : Bool :=
  settings.startOnActivation &&
    match settings.workingDirectory, settings.configFile with
    | some directory, some file => pathExists (directory.join file)
    | _, _ => false

/-- The layer in a file, if there is such a file. -/
def readFile (tree : FileTree) (current : Location) (file : Path) : Except SettingsError (Option SettingsLayer) :=
  if !tree.pathExists current file then .ok none
  else
    match tree.read current file with
    | .error fault => .error (.unreadable file fault.message)
    | .ok bytes =>
      match Utf8.decode bytes with
      | .error _ => .error (.unreadable file "stream did not contain valid UTF-8")
      | .ok text =>
        match SettingsLayer.parse text with
        | .error reason => .error (.invalid file reason)
        | .ok layer => .ok (some layer)

/-- Where the user keeps settings: the configuration home, which has to be absolute, or a place in the
home directory. -/
def userDirectory (configHome : Option Path) (home : Path) : Path :=
  match configHome.filter (·.isAbsolute) with
  | some directory => directory
  | none => home.join ⟨".config"⟩

def load (tree : FileTree) (current : Location) (userDirectory : Path) (projectDirectory : Option Path)
    (overrides : SettingsLayer) : Except SettingsError Settings := do
  let user ← readFile tree current (userDirectory.join userFile)
  let project ←
    match projectDirectory with
    | some directory => readFile tree current (directory.join projectFile)
    | none => pure none
  return ofLayers projectDirectory (user.toList ++ project.toList ++ [overrides])

end Settings

end BuildWatch
