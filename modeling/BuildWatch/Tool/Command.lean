import BuildWatch.FileTree

/-! Which program a watch session runs, and how it is called. The tool is looked for where packages put
their programs, in the working directory and then in each directory around it. -/

namespace BuildWatch.Tool

inductive CommandError where
  | toolNotFound (tool : String) (workingDirectory : Path)
  | configMissing (file : Path)
  deriving DecidableEq, Inhabited

def CommandError.message : CommandError → String
  | toolNotFound tool workingDirectory => s!"cannot resolve '{tool}' from {workingDirectory.text}"
  | configMissing file => s!"configuration file {file.text} doesn't exist"

def programDirectory (directory : Path) : Path := (directory.join ⟨"node_modules"⟩).join ⟨".bin"⟩

def candidates (tool : String) (workingDirectory : Path) : List Path :=
  workingDirectory.ancestors.map fun directory => (programDirectory directory).join ⟨tool⟩

/-- The nearest file of the tool's name. -/
def findTool (isFile : Path → Bool) (tool : String) (workingDirectory : Path) : Except CommandError Path :=
  match (candidates tool workingDirectory).find? isFile with
  | some program => .ok program
  | none => .error (.toolNotFound tool workingDirectory)

structure Command where
  program : Path
  arguments : List String
  workingDirectory : Path
  deriving DecidableEq, Inhabited

/-- The call of a tool that keeps watching. It ends by itself when its input does. -/
def watchArguments (configFile : Path) : List String :=
  ["--watch", "--watch-options-stdin", "--config", configFile.text, "--mode", "development", "--progress", "--json"]

/-- A missing configuration file is noticed before a missing tool. -/
def Command.find (isFile : Path → Bool) (tool : String) (workingDirectory configFile : Path) :
    Except CommandError Command :=
  let config := workingDirectory.join configFile
  if !isFile config then .error (.configMissing config)
  else
    match findTool isFile tool workingDirectory with
    | .error reason => .error reason
    | .ok program => .ok ⟨program, watchArguments config, workingDirectory⟩

end BuildWatch.Tool
