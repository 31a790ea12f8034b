import BuildWatch.Rehearsal.Care

/-! The parts that agents play. A part answers what an agent learns with the tasks that follow from it. -/

namespace BuildWatch.Rehearsal

open Machine

namespace Scene

def pathExists (scene : Scene) (path : Path) : Bool := scene.world.tree.pathExists scene.place path

/-- Why a program cannot be started in a directory, if it cannot. -/
def spawnFault? (scene : Scene) (directory program : Path) (arguments : List String) : Option String :=
  match scene.world.imageIn scene.place scene.environment directory program arguments with
  | .ok _ => none
  | .error fault => some fault.message

/-- What a watch finds around it. A request to a worker that it has just launched is never lost at once. -/
def surroundings (scene : Scene) (tool : String) (present : Option Nat) : Surroundings where
  pathExists := scene.pathExists
  launchFailure := fun directory => (scene.spawnFault? directory programPath (Link.arguments tool)).map (Link.launchFailure programPath)
  sendFailure := fun
    | .start _ _ => none
    | _ =>
      match present.bind scene.agent.ward? with
      | some ward => if ward.inputLost then some Link.closed else none
      | none => none

def watchSurroundings (scene : Scene) (tool : String) (watch : Watch) : Surroundings :=
  scene.surroundings tool (watch.run.map (·.worker))

def toolSurroundings (scene : Scene) : ToolSurroundings where
  isFile := scene.world.tree.isFile scene.place
  spawnFailure := fun command => scene.spawnFault? command.workingDirectory command.program command.arguments

def userDirectory (scene : Scene) : Path :=
  Settings.userDirectory ((scene.setting? "XDG_CONFIG_HOME").map Path.mk) ⟨(scene.setting? "HOME").getD "/"⟩

def loadSettings (scene : Scene) (project : Path) (overrides : SettingsLayer) : Except SettingsError Settings :=
  Settings.load scene.world.tree scene.place scene.userDirectory (some project) overrides

def currentDirectory (scene : Scene) : Path := ⟨"/" ++ "/".intercalate scene.place⟩

end Scene

namespace Task

def printLine (text : String) : Task := .print (text ++ "\n")

/-- The end of a run that has failed. -/
def fail (failure : Failure) : List Task := [.complain failure.text, .exit Failure.exitCode]

/-- The part of an effect that concerns the worker process. -/
def ofEffect (tool : String) : Effect → List Task
  | .launch worker generation directory => [.spawn worker generation programPath (Link.arguments tool) directory]
  | .send worker request => [.send worker request.toFrame]
  | .shutDown worker grace => [.shutDown worker grace]
  | _ => []

def ofShown : Console.Output → Task
  | .line text => printLine text
  | .note record => .note record

/-- The tasks of effects in their order; the board is as each of them leaves it. -/
def ofConsoleEffects (tool : String) (board : Board) : List Effect → List Task
  | [] => []
  | effect :: rest =>
    let board := board.apply effect
    ofEffect tool effect ++ (Console.shown board effect).map ofShown ++ ofConsoleEffects tool board rest

/-- In a terminal the log lines of the tool and the notes are all that is shown of effects. -/
def ofTerminalEffect (tool : String) (effect : Effect) : List Task :=
  ofEffect tool effect ++
    match effect with
    | .log line => [printLine line]
    | .warn text => [.note (.of .warn text)]
    | .alert text => [.note (.of .error text)]
    | .note record => [.note record]
    | _ => []

def ofWorkerEffect : WorkerEffect → Task
  | .report report => .print report.toFrame
  | .note record => .note record
  | .spawn process command => .spawn process.toNat process command.program command.arguments command.workingDirectory
  | .close process grace => .shutDown process.toNat grace

end Task

/-- What an agent does next: its part from now on, and tasks. -/
abbrev Move : Type := Role × List Task

namespace Move

/-- A console that takes over an answer. -/
def ofAnswer (tool : String) (options : CommandLine.SettingsOptions) (project : Path) (before : Board)
    (answer : Console.Answer) : Move :=
  let board := answer.effects.foldl Board.apply before
  let ending : List Task :=
    match answer.console.ending with
    | none => []
    | some .completed => [.exit 0]
    | some (.unreadable reason) => Task.fail ⟨"Failed to read stdin", some reason⟩
  (.console { answer.console with board } tool options project,
    answer.shown.map Task.ofShown ++ Task.ofConsoleEffects tool before answer.effects ++ ending)

/-- A terminal that has made a step, with what it has written meanwhile. -/
def ofTerminal (tool : String) (before : TerminalRun) (result : TerminalRun × List Effect) : Move :=
  let (run, effects) := result
  let written := (run.written.drop before.written.length).map Task.print
  let ending : List Task :=
    match before.ending, run.ending with
    | none, some .completed => [.exit 0]
    | none, some (.failed reason) => Task.fail ⟨RunEnd.inputFault, some reason⟩
    | _, _ => []
  (.terminal run tool, written ++ effects.flatMap (Task.ofTerminalEffect tool) ++ ending)

def ofService (result : Service × List WorkerEffect) : Move :=
  let (service, effects) := result
  let ending : List Task :=
    match service.ending with
    | none => []
    | some .completed => [.exit 0]
    | some (.malformed fault) => Task.fail ⟨fault.message, some fault.reason⟩
    | some (.unreadable reason) => Task.fail ⟨"Failed to read stdin", some reason⟩
  (.worker service, effects.map Task.ofWorkerEffect ++ ending)

end Move

namespace Scene

def settingsFailure (fault : SettingsError) : Failure := ⟨fault.message, some fault.cause⟩

def projectOf (scene : Scene) (options : CommandLine.SettingsOptions) : Path :=
  options.project.getD scene.currentDirectory

def beginWatch (scene : Scene) (options : CommandLine.SettingsOptions) : Move :=
  let project := scene.projectOf options
  match scene.loadSettings project options.overrides with
  | .error fault => (scene.agent.role, Task.fail (settingsFailure fault))
  | .ok settings =>
    let answer := Console.begin (scene.surroundings settings.buildTool none) settings {}
    let (role, tasks) := Move.ofAnswer settings.buildTool options project {} answer
    (role, tasks ++ [Task.printLine Console.help])

/-- A terminal starts whatever the settings say about starting. -/
def beginTask (scene : Scene) (options : CommandLine.SettingsOptions) : Move :=
  match scene.loadSettings (scene.projectOf options) options.overrides with
  | .error fault => (scene.agent.role, Task.fail (settingsFailure fault))
  | .ok settings =>
    let surroundings := scene.surroundings settings.buildTool none
    let (watch, configuring) := Watch.configure surroundings settings.toChange {}
    let (run, starting) := TerminalRun.begin surroundings { watch := watch }
    Move.ofTerminal settings.buildTool ⟨run.terminal, [], none⟩ (run, configuring ++ starting)

def ofCheck (scene : Scene) (result : Check.Result) : Move :=
  (scene.agent.role,
    [.print result.output] ++ (result.failure.toList.map fun failure => .complain failure.text) ++ [.exit result.exitCode])

/-- A file that stands for the input is not there until the input has ended. -/
def beginCheck (scene : Scene) (question : Check.Question) : Move :=
  match scene.world.tree.find scene.place question.file with
  | .ok (.device (.descriptor 0)) => (.checker question [], [])
  | _ => scene.ofCheck (Check.run scene.world.tree scene.place question)

/-- Finds out what the program is called for. -/
def begin (scene : Scene) (arguments : List String) : Move :=
  match CommandLine.parse? arguments with
  | none => (scene.agent.role, [.complain CommandLine.usage, .exit CommandLine.usageExit])
  | some .help => (scene.agent.role, [.print CommandLine.usage, .exit 0])
  | some (.watch options) => scene.beginWatch options
  | some (.task options) => scene.beginTask options
  | some (.worker tool) => (.worker { worker := { tool := tool } }, [])
  | some (.check file root severity) => scene.beginCheck ⟨file, root, severity⟩

/-- The event of a worker that a notice stands for, with its generation. -/
def workerEvent? (scene : Scene) (notice : Notice) : Option (UInt64 × WorkerEvent) :=
  match notice with
  | .output key output => do return ((← scene.agent.ward? key).generation, ← Link.event? output)
  | .writeFailed key cause => do return ((← scene.agent.ward? key).generation, Link.writeFailure cause)

def onNotice (scene : Scene) (notice : Notice) : Move :=
  match scene.agent.role, notice with
  | .listener heard, notice => (.listener (heard ++ [notice]), [])
  | .worker service, .output key output =>
    match scene.agent.ward? key with
    | none => (scene.agent.role, [])
    | some ward => Move.ofService (service.step scene.toolSurroundings (.tool ward.generation output))
  | .console console tool options project, notice =>
    match scene.workerEvent? notice with
    | none => (scene.agent.role, [])
    | some (generation, event) =>
      Move.ofAnswer tool options project console.board (console.act (console.watch.receive generation event))
  | .terminal run tool, notice =>
    match scene.workerEvent? notice with
    | none => (scene.agent.role, [])
    | some (generation, event) =>
      Move.ofTerminal tool run (run.step (scene.watchSurroundings tool run.terminal.watch) (.event generation event))
  | role, _ => (role, [])

def onInput (scene : Scene) (event : InputEvent) : Move :=
  match scene.agent.role with
  | .worker service => Move.ofService (service.step scene.toolSurroundings (.input event))
  | .console console tool options project =>
    let surroundings := scene.watchSurroundings tool console.watch
    let settings := scene.loadSettings project options.overrides
    Move.ofAnswer tool options project console.board (console.onInput surroundings settings event)
  | .terminal run tool =>
    Move.ofTerminal tool run (run.step (scene.watchSurroundings tool run.terminal.watch) (.input event))
  | role => (role, [])

/-- A terminal has something to write. -/
def onOutput? (scene : Scene) : Option Move :=
  match scene.agent.role with
  | .terminal run tool =>
    if run.ending.isSome || run.terminal.pending.isEmpty then none
    else some (Move.ofTerminal tool run (run.step (scene.watchSurroundings tool run.terminal.watch) .output))
  | _ => none

end Scene

end BuildWatch.Rehearsal
