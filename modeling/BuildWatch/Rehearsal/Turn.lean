import BuildWatch.Machine.Schedule
import BuildWatch.Rehearsal.Part
import BuildWatch.Toolbox

/-! The turn of an agent. It looks after its wards first; then come its tasks in their order, and only when there are
none left does it turn to what has happened. News of its wards go before its input. -/

namespace BuildWatch.Rehearsal

open Machine

/-- What comes of a task when an agent has its turn. -/
inductive Progress where
  | waiting (scene : Scene)
  | done (scene : Scene)
  /-- The agent is no more. -/
  | ended (world : World Agent)

namespace Scene

def outputDescriptor : Nat := 1

def errorDescriptor : Nat := 2

/-- The record of a worker is a frame; others write theirs to the error stream. -/
def note (record : LogRecord) (scene : Scene) : Scene :=
  if !scene.agent.filter.passes record.level then scene
  else
    let line := record.line ++ "\n"
    match scene.agent.role with
    | .worker _ =>
      match Report.ofRecord (some record.level) [Utf8.encode line] with
      | some report => (scene.write outputDescriptor report.toFrame).1
      | none => scene
    | _ => (scene.write errorDescriptor line).1

def update (key : Nat) (change : Ward → Ward) (scene : Scene) : Scene :=
  match scene.agent.ward? key with
  | some ward => scene.withAgent (scene.agent.setWard key (change ward))
  | none => scene

/-- The environment and the streams of a child come from its agent. -/
def spawn (load : Loader Agent) (key : Nat) (generation : UInt64) (program : Path) (arguments : List String)
    (directory : Path) (scene : Scene) : Scene :=
  match scene.world.imageIn scene.place scene.environment directory program arguments, scene.process? with
  | .ok (inner, image), some process =>
    let (world, input) := scene.world.addStream []
    let (world, output) := world.addStream []
    let (world, error) := world.addStream []
    let first := process.descriptors.fresh
    let own := [(first, Handle.sink input), (first + 1, .source output), (first + 2, .source error)]
    let world := world.setProcess scene.number { process with descriptors := own ++ process.descriptors }
    match world.spawn load scene.number process.environment inner image
        [(0, .source input), (1, .sink output), (2, .sink error)] with
    | (world, none) => { scene with world }
    | (world, some number) =>
      let ward : Ward :=
        { process := number, input := some first, output := some (first + 1), error := some (first + 2), generation }
      { scene with world }.withAgent (scene.agent.addWard key ward)
  | _, _ => scene

def spawnRecord (ward : Ward) (directory : Path) : LogRecord :=
  .of .debug "worker spawned" [("pid", toString ward.process), ("cwd", directory.text)]

/-- What an agent notes about a worker that it has started. -/
def spawnNote (key : Nat) (directory : Path) (scene : Scene) : Scene :=
  match scene.agent.role, scene.agent.ward? key with
  | .console .., some ward => scene.note (spawnRecord ward directory)
  | .terminal .., some ward => scene.note (spawnRecord ward directory)
  | _, _ => scene

def closeInput (key : Nat) (scene : Scene) : Scene :=
  match scene.agent.ward? key with
  | some ward => (scene.close ward.input).update key fun ward => { ward with input := none }
  | none => scene

/-- Nothing can be written to a ward after a write that has failed. -/
def send (key : Nat) (text : String) (scene : Scene) : Scene :=
  match (scene.agent.ward? key).bind (·.input) with
  | none => scene
  | some descriptor =>
    match scene.write descriptor text with
    | (scene, false) => scene
    | (scene, true) =>
      let scene := (scene.closeInput key).update key fun ward => { ward with inputLost := true }
      scene.withAgent { scene.agent with inbox := scene.agent.inbox ++ [.writeFailed key FileError.brokenPipe.message] }

def stepWard (key : Nat) (event : ChildEvent) (scene : Scene) : Scene :=
  match scene.agent.ward? key with
  | none => scene
  | some ward =>
    let (ward, outputs) := ward.steps [event]
    let agent := scene.agent.setWard key ward
    scene.withAgent { agent with inbox := agent.inbox ++ outputs.map (Notice.output key) }

def killNote (graceMillis : Nat) : LogRecord := .of .debug s!"child didn't exit in {durationText graceMillis}, killing"

/-- Ends the input of a ward and waits for its exit, with force after the grace period. -/
def shutDown (key graceMillis : Nat) (scene : Scene) : Progress :=
  match scene.agent.ward? key with
  | none => .done scene
  | some ward =>
    if ward.child.hold = .held then
      let scene := (scene.closeInput key).stepWard key .shutDown
      let ends := scene.world.clock + graceMillis * 1000
      .waiting (scene.update key fun ward => { ward with graceEnds := some ends })
    else if ward.child.hold = .dropped || ward.child.shutDownReturned then .done scene
    else
      match ward.graceEnds with
      | some time =>
        if time ≤ scene.world.clock then
          let scene := (scene.note (killNote graceMillis)).stepWard key .graceExpired
          .waiting (scene.update key fun ward => { ward with graceEnds := none })
        else .waiting scene
      | none => .waiting scene

/-- With an agent all the wards end that have not been seen to end. -/
def exit (code : Nat) (scene : Scene) : World Agent :=
  let world := scene.agent.wards.foldl (fun world (_, ward) =>
    if ward.child.exit.isNone then world.signal ward.process Signal.kill else world) scene.world
  world.finish scene.number (.code code)

def adopt (move : Move) (scene : Scene) : Scene :=
  scene.withAgent ({ scene.agent with role := move.1 }.addTasks move.2)

def perform (load : Loader Agent) (task : Task) (scene : Scene) : Progress :=
  match task with
  | .begin =>
    match scene.agent.role with
    | .called arguments => .done (scene.adopt (scene.begin arguments))
    | _ => .done scene
  | .print text => .done (scene.write outputDescriptor text).1
  | .complain text => .done (scene.write errorDescriptor text).1
  | .note record => .done (scene.note record)
  | .spawn key generation program arguments directory =>
    .done ((scene.spawn load key generation program arguments directory).spawnNote key directory)
  | .send key text => .done (scene.send key text)
  | .closeInput key => .done (scene.closeInput key)
  | .shutDown key grace => scene.shutDown key grace
  | .drop key => .done ((scene.closeInput key).stepWard key .drop)
  | .exit code => .ended (scene.exit code)

/-- Leaves the agent in the world as it is now. -/
def settle (scene : Scene) : World Agent :=
  match scene.process? with
  | some process => scene.world.setProcess scene.number { process with body := .agent scene.agent }
  | none => scene.world

/-- A checker takes in what there is, and checks it when nothing more can come. -/
def collect (scene : Scene) : Scene :=
  match scene.agent.role with
  | .checker question content =>
    match scene.take (some 0) with
    | (scene, [], true) => scene.adopt (scene.ofCheck (question.answer scene.place content))
    | (scene, [], false) => scene
    | (scene, bytes, _) => scene.withAgent { scene.agent with role := .checker question (content ++ bytes) }
  | _ => scene.takeInput

/-- What an agent turns to when it has no tasks. -/
def attend (scene : Scene) : Scene :=
  match scene.onOutput? with
  | some move => scene.adopt move
  | none =>
    match scene.agent.inbox with
    | notice :: inbox =>
      let scene := scene.withAgent { scene.agent with inbox }
      scene.adopt (scene.onNotice notice)
    | [] =>
      let scene := scene.collect
      match scene.agent.lines with
      | event :: lines =>
        let scene := scene.withAgent { scene.agent with lines }
        scene.adopt (scene.onInput event)
      | [] => scene

/-- The turn of an agent, if it does anything in it. -/
def turn (load : Loader Agent) (scene : Scene) : Option (World Agent) :=
  let scene := scene.care
  match scene.agent.tasks with
  | [] =>
    let scene := scene.attend
    if scene.acted then some scene.settle else none
  | task :: _ =>
    match scene.perform load task with
    | .ended world => some world
    | .waiting scene => if scene.acted then some scene.settle else none
    | .done scene => some (scene.withAgent { scene.agent with tasks := scene.agent.tasks.tail }).settle

end Scene

/-- What the programs of the machine are by name; the program itself is an agent. -/
def load : Loader Agent := fun arguments name environment =>
  if name = programName then some (.agent (Agent.ofCall (arguments.tail.map ByteText.toText) environment))
  else (Toolbox.program? name arguments environment).map .program

def conduct : Conduct Agent where
  load := load
  turn := fun world number _ agent => ({ world, number, agent } : Scene).turn load
  alarms := Agent.alarms

end BuildWatch.Rehearsal
