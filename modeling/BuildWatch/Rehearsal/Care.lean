import BuildWatch.Rehearsal.Agent

/-! How an agent looks after its wards: it reads what they write, notices their end, and kills those that are to be
killed. What a ward puts out goes to the inbox of its agent. -/

namespace BuildWatch.Rehearsal

open Machine

/-- An agent at work in the world, and whether it has done anything yet. -/
structure Scene where
  world : World Agent
  number : Nat
  agent : Agent
  acted : Bool := false

namespace Scene

def process? (scene : Scene) : Option (Process Agent) := scene.world.process? scene.number

def place (scene : Scene) : Location := (scene.process?.map (·.place)).getD []

def environment (scene : Scene) : Environment := (scene.process?.map (·.environment)).getD []

def setting? (scene : Scene) (name : String) : Option String := World.setting? scene.environment name

def handle? (scene : Scene) (descriptor : Nat) : Option Handle := scene.process?.bind (·.descriptors.get? descriptor)

def act (scene : Scene) : Scene := { scene with acted := true }

def withAgent (agent : Agent) (scene : Scene) : Scene := { scene with agent, acted := true }

def close (descriptor : Option Nat) (scene : Scene) : Scene :=
  match descriptor, scene.process? with
  | some number, some process =>
    { scene with world := scene.world.setProcess scene.number { process with descriptors := process.descriptors.erase number } }
  | _, _ => scene

/-- Writes to a stream or a file; answers whether there was nobody to write to. -/
def write (descriptor : Nat) (text : String) (scene : Scene) : Scene × Bool :=
  match scene.handle? descriptor with
  | some (.sink stream) =>
    if scene.world.isHeld (.source stream) then
      ({ scene with world := scene.world.append stream (Utf8.encode text) }, false)
    else (scene, true)
  | some (.file place) =>
    match scene.world.tree.root.get? place with
    | some (.file content executable) =>
      let tree := scene.world.tree.put place (.file (content ++ Utf8.encode text) executable)
      ({ scene with world := { scene.world with tree } }, false)
    | _ => (scene, false)
  | _ => (scene, false)

/-- Everything that waits in a stream, and whether nothing will follow it. -/
def take (descriptor : Option Nat) (scene : Scene) : Scene × List UInt8 × Bool :=
  match descriptor.bind scene.handle? with
  | some (.source stream) =>
    match scene.world.content stream with
    | [] => (scene, [], scene.world.isDrained stream)
    | bytes => ({ scene with world := scene.world.setContent stream [] }.act, bytes, false)
  | _ => (scene, [], true)

end Scene

namespace Ward

def descriptor (ward : Ward) : OutputStream → Option Nat
  | .output => ward.output
  | .error => ward.error

def lines (ward : Ward) : OutputStream → LineStream
  | .output => ward.outputLines
  | .error => ward.errorLines

def setLines (stream : OutputStream) (lines : LineStream) (ward : Ward) : Ward :=
  match stream with
  | .output => { ward with outputLines := lines }
  | .error => { ward with errorLines := lines }

def forget (stream : OutputStream) (ward : Ward) : Ward :=
  match stream with
  | .output => { ward with output := none }
  | .error => { ward with error := none }

def steps (events : List ChildEvent) (ward : Ward) : Ward × List ProcessOutput :=
  events.foldl (fun (ward, outputs) event =>
    let (child, more) := ward.child.step event
    ({ ward with child }, outputs ++ more)) (ward, [])

def lineEvent (stream : OutputStream) (bytes : List UInt8) : ChildEvent :=
  match InputEvent.ofBytes bytes with
  | .line text => .line stream text
  | .unreadable reason => .unreadable stream reason
  | .finished => .streamEnded stream

end Ward

/-- A ward that is being looked after, and what it has put out meanwhile. -/
structure Visit where
  scene : Scene
  ward : Ward
  outputs : List ProcessOutput := []

namespace Visit

def events (events : List ChildEvent) (visit : Visit) : Visit :=
  let (ward, outputs) := visit.ward.steps events
  { visit with
    ward
    outputs := visit.outputs ++ outputs
    scene := if ward.child = visit.ward.child && outputs.isEmpty then visit.scene else visit.scene.act }

/-- A stream that is not read any more is closed. -/
def closeIfDone (stream : OutputStream) (visit : Visit) : Visit :=
  if visit.ward.child.isOpen stream then visit
  else
    { visit with
      scene := visit.scene.close (visit.ward.descriptor stream)
      ward := visit.ward.forget stream }

def listen (stream : OutputStream) (visit : Visit) : Visit :=
  if !visit.ward.child.isOpen stream then visit
  else
    match visit.scene.take (visit.ward.descriptor stream) with
    | (scene, [], false) => { visit with scene }
    | (scene, [], true) =>
      let last := (visit.ward.lines stream).finish.toList.map (Ward.lineEvent stream)
      ({ visit with scene }.events (last ++ [ChildEvent.streamEnded stream])).closeIfDone stream
    | (scene, bytes, _) =>
      let (lines, finished) := (visit.ward.lines stream).feed bytes
      let visit := { visit with scene, ward := visit.ward.setLines stream lines }
      (visit.events (finished.map (Ward.lineEvent stream))).closeIfDone stream

def codeOf : ExitStatus → Option Int
  | .code value => some value
  | .signal _ => none

/-- Notices the end of the process. -/
def mourn (visit : Visit) : Visit :=
  match visit.scene.world.reap visit.scene.number visit.ward.process with
  | none => visit
  | some (world, status) =>
    { visit with scene := { visit.scene with world }.act }.events [.ended (codeOf status)]

/-- The end of the time that a reader gets for what is left. -/
def watchDrain (before : MonitorStage) (visit : Visit) : Visit :=
  let clock := visit.scene.world.clock
  match visit.ward.child.stage with
  | .draining stream =>
    if before = .draining stream then visit
    else { visit with ward := { visit.ward with drainEnds := some (clock + Child.drainMillis * 1000) } }
  | _ => { visit with ward := { visit.ward with drainEnds := none } }

def expireDrain (visit : Visit) : Visit :=
  match visit.ward.drainEnds with
  | some time =>
    if time ≤ visit.scene.world.clock then (visit.events [.drainExpired]).watchDrain visit.ward.child.stage else visit
  | none => visit

/-- One step of the monitor. A ward that is killed has to be killed indeed. -/
def monitor (visit : Visit) : Visit :=
  let before := visit.ward.child
  let visit := (visit.events [.monitor]).watchDrain before.stage
  if visit.ward.child.killed && !before.killed then
    let world := visit.scene.world.signal visit.ward.process Signal.kill
    let world := ((world.reap visit.scene.number visit.ward.process).map (·.1)).getD world
    { visit with scene := { visit.scene with world } }
  else visit

def whole (visit : Visit) : Visit :=
  ((((((visit.listen .output).listen .error).mourn).expireDrain).monitor).monitor).monitor

end Visit

namespace Scene

/-- Looks after one ward. -/
def careFor (key : Nat) (scene : Scene) : Scene :=
  match scene.agent.ward? key with
  | none => scene
  | some ward =>
    let visit := ({ scene, ward } : Visit).whole
    let agent := visit.scene.agent.setWard key visit.ward
    { visit.scene with agent := { agent with inbox := agent.inbox ++ visit.outputs.map (Notice.output key) } }

def care (scene : Scene) : Scene := (scene.agent.wards.map (·.1)).foldl (fun scene key => scene.careFor key) scene

/-- Takes in what has come on the agent's own input. -/
def takeInput (scene : Scene) : Scene :=
  if scene.agent.inputEnded then scene
  else
    match scene.take (some 0) with
    | (scene, [], false) => scene
    | (scene, [], true) =>
      let last := scene.agent.input.finish.toList.map InputEvent.ofBytes
      scene.withAgent { scene.agent with lines := scene.agent.lines ++ last ++ [.finished], inputEnded := true }
    | (scene, bytes, _) =>
      let (input, finished) := scene.agent.input.feed bytes
      scene.withAgent { scene.agent with input, lines := scene.agent.lines ++ finished.map InputEvent.ofBytes }

end Scene

end BuildWatch.Rehearsal
