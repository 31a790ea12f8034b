import BuildWatch.Diagnostic

/-! The diagnostics on display, file by file. Files are told apart by the components of their paths and
kept in component order; a file keeps the spelling it came with until it goes. -/

namespace BuildWatch

abbrev FileDiagnostics : Type := Path × List Diagnostic

structure Board where
  files : List FileDiagnostics := []
  deriving DecidableEq, Inhabited

namespace Board

/-- Puts the items of a file in place of those it had. -/
def insert (file : Path) (items : List Diagnostic) : List FileDiagnostics → List FileDiagnostics
  | [] => [(file, items)]
  | (other, held) :: rest =>
    if file.equivalent other then (other, items) :: rest
    else if file.before other then (file, items) :: (other, held) :: rest
    else (other, held) :: insert file items rest

/-- Adds one item behind those its file has. -/
def append (item : Diagnostic) : List FileDiagnostics → List FileDiagnostics
  | [] => [(item.file, [item])]
  | (other, held) :: rest =>
    if item.file.equivalent other then (other, held ++ [item]) :: rest
    else if item.file.before other then (item.file, [item]) :: (other, held) :: rest
    else (other, held) :: append item rest

/-- Diagnostics by file, each file's in the given order. -/
def group (items : List Diagnostic) : List FileDiagnostics := items.foldl (fun files item => append item files) []

def clear (_ : Board) : Board := {}

/-- A file without items is taken off. -/
def set (board : Board) (file : Path) (items : List Diagnostic) : Board :=
  if items.isEmpty then ⟨board.files.filter fun (other, _) => !file.equivalent other⟩
  else ⟨insert file items board.files⟩

def items? (board : Board) (file : Path) : Option (List Diagnostic) :=
  (board.files.find? fun (other, _) => file.equivalent other).map (·.2)

def hasError (entry : FileDiagnostics) : Bool := entry.2.any (·.severity == .error)

/-- Files with errors come first. -/
def snapshot (board : Board) : List FileDiagnostics :=
  board.files.filter hasError ++ board.files.filter fun entry => !hasError entry

def size (board : Board) : Nat := (board.files.flatMap (·.2)).length

def isEmpty (board : Board) : Bool := board.size == 0

/-- Counters have 32 bits. -/
def count (severity : Severity) (board : Board) : Int32 :=
  (board.files.flatMap (·.2)).foldl (fun count item => if item.severity == severity then count + 1 else count) 0

/-- Errors and warnings in short; nothing when there is nothing. -/
def summary (board : Board) : String :=
  let errors := board.count .error
  let warnings := board.count .warning
  if errors == 0 && warnings == 0 then "" else s!"E:{errors} W:{warnings}"

end Board

end BuildWatch
