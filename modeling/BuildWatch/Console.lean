import BuildWatch.Board
import BuildWatch.Settings
import BuildWatch.Text.Stream
import BuildWatch.Watch

/-! A watch that is driven by commands, one to a line. Every finished build is answered with its
diagnostics and one line of result. -/

namespace BuildWatch

namespace Console

def help : String := "commands: start, stop, invalidate (trigger), status, reload, quit"

inductive Command where
  | start
  | stop
  | invalidate
  | status
  | reload
  | quit
  deriving DecidableEq, Inhabited

def trimmed (line : String) : String := String.ofList (Text.trim line.toList)

def Command.parse? (line : String) : Option Command :=
  let word := trimmed line
  if word = "start" then some .start
  else if word = "stop" then some .stop
  else if word = "invalidate" || word = "trigger" then some .invalidate
  else if word = "status" then some .status
  else if word = "reload" then some .reload
  else if word = "quit" || word = "exit" then some .quit
  else none

def statusWord : BuildStatus → String
  | .idle => "idle"
  | .running percent => s!"building {percent.toNat}%"
  | .success => "success"
  | .failure => "failure"

def pathText (path : Option Path) : String := (path.map (·.text)).getD "-"

def statusLine (watch : Watch) (board : Board) : String :=
  " | ".intercalate
    [if watch.isActive then "active" else "idle", statusWord watch.status,
      s!"dir: {pathText watch.target.workingDirectory}", s!"config: {pathText watch.target.configFile}",
      board.summary]

/-- A diagnostic with its position counted from one. -/
def diagnosticLine (file : Path) (diagnostic : Diagnostic) : String :=
  let message := String.ofList (Text.trimEnd diagnostic.message.toList)
  let start := diagnostic.span.start
  s!"{file.text}:{start.line + 1}:{start.character + 1}: {diagnostic.severity.label}: {message}"

def diagnosticLines (board : Board) : List String :=
  board.snapshot.flatMap fun (file, items) => items.map (diagnosticLine file)

def resultLine (board : Board) (status : BuildStatus) : String :=
  if status = .success then "build succeeded"
  else if board.isEmpty then "build failed"
  else s!"build failed ({board.summary})"

/-- What a console shows: lines on its output, and records in its log. -/
inductive Output where
  | line (text : String)
  | note (record : LogRecord)
  deriving DecidableEq, Inhabited

def onStatus (board : Board) : BuildStatus → List Output
  | .idle => []
  | .running percent => [.note (.of .debug s!"building {percent.toNat}%")]
  | status => (diagnosticLines board ++ [resultLine board status]).map .line

/-- What is shown for an effect, with the board as the effect leaves it. -/
def shown (board : Board) : Effect → List Output
  | .log line => [.line line]
  | .warn text => [.note (.of .warn text)]
  | .alert text => [.note (.of .error text)]
  | .note record => [.note record]
  | .activeChanged active => [.note (.of .info (if active then "watching" else "not watching"))]
  | .statusChanged status => onStatus board status
  | _ => []

def unknownCommand (line : String) : String := s!"unknown command '{trimmed line}'; {help}"

end Console

/-- How a console has ended. -/
inductive ConsoleEnd where
  | completed
  | unreadable (reason : String)
  deriving DecidableEq, Inhabited

structure Console where
  watch : Watch := {}
  board : Board := {}
  ending : Option ConsoleEnd := none
  deriving Inhabited

namespace Console

/-- What a command does: effects of the watch, or something to show, or the end. -/
structure Answer where
  console : Console
  effects : List Effect := []
  shown : List Output := []

/-- A console that has ended without a fault has disposed of its watch. -/
def finish (surroundings : Surroundings) (console : Console) : Answer :=
  let (watch, effects) := console.watch.dispose surroundings
  { console := { console with watch, ending := some .completed }, effects }

def act (console : Console) (result : Watch × List Effect) : Answer :=
  { console := { console with watch := result.1 }, effects := result.2 }

def reload (surroundings : Surroundings) (settings : Except SettingsError Settings) (console : Console) : Answer :=
  match settings with
  | .error fault => { console, shown := [.note (.of .error s!"{fault.message}: {fault.cause}")] }
  | .ok settings =>
    { console.act (console.watch.configure surroundings settings.toChange) with
      shown := [.note (.of .info "settings reloaded")] }

def onLine (surroundings : Surroundings) (settings : Except SettingsError Settings) (line : String)
    (console : Console) : Answer :=
  if Text.isBlank line then { console }
  else
    match Command.parse? line with
    | none => { console, shown := [.line (unknownCommand line)] }
    | some .start => console.act (console.watch.start surroundings)
    | some .stop => console.act (console.watch.stop surroundings)
    | some .invalidate => console.act (console.watch.invalidate surroundings)
    | some .status => { console, shown := [.line (statusLine console.watch console.board)] }
    | some .reload => console.reload surroundings settings
    | some .quit => console.finish surroundings

def onInput (surroundings : Surroundings) (settings : Except SettingsError Settings) (event : InputEvent)
    (console : Console) : Answer :=
  match event with
  | .line line => console.onLine surroundings settings line
  | .finished => console.finish surroundings
  | .unreadable reason => { console := { console with ending := some (.unreadable reason) } }

/-- Takes the settings over, and starts if they say so. -/
def begin (surroundings : Surroundings) (settings : Settings) (console : Console) : Answer :=
  let (watch, configuring) := console.watch.configure surroundings settings.toChange
  if settings.shouldAutostart surroundings.pathExists then
    let (watch, starting) := watch.start surroundings
    { console := { console with watch }, effects := configuring ++ starting }
  else { console := { console with watch }, effects := configuring }

end Console

end BuildWatch
