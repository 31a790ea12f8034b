import BuildWatch.Machine.World

/-! How the machine answers the calls of programs. A call that cannot be answered yet is made again later. -/

namespace BuildWatch.Machine

/-- What comes of a call. -/
inductive Answer (α : Type) where
  | blocked
  | reply (world : World α) (reply : Reply)
  /-- There is nobody left who waits for an answer. -/
  | gone (world : World α)

namespace World

variable {α : Type}

/-- What a process knows about itself when it makes a call. -/
structure Caller (α : Type) where
  world : World α
  number : Nat
  process : Process α

namespace Caller

def done (caller : Caller α) : Answer α := .reply caller.world .done

def fail (caller : Caller α) (fault : FileError) : Answer α := .reply caller.world (.failed fault)

def replace (caller : Caller α) (process : Process α) : World α := caller.world.setProcess caller.number process

def withDescriptors (caller : Caller α) (descriptors : Descriptors) : World α :=
  caller.replace { caller.process with descriptors }

def handle? (caller : Caller α) (descriptor : Nat) : Option Handle := caller.process.descriptors.get? descriptor

def place (caller : Caller α) : Location := caller.process.place

def read (caller : Caller α) (descriptor limit : Nat) : Answer α :=
  match caller.handle? descriptor with
  | some (.source stream) =>
    match caller.world.content stream with
    | [] => if caller.world.isHeld (.sink stream) then .blocked else .reply caller.world (.bytes [])
    | held => .reply (caller.world.setContent stream (held.drop limit)) (.bytes (held.take limit))
  | some (.stored stream _) =>
    let held := caller.world.content stream
    .reply (caller.world.setContent stream (held.drop limit)) (.bytes (held.take limit))
  | some (.device .zeros) => .reply caller.world (.bytes (List.replicate limit 0))
  | some (.device _) => .reply caller.world (.bytes [])
  | _ => caller.fail .badDescriptor

/-- Without a reader a writer gets a signal, and learns of its loss only if it survives that. -/
def writeStream (caller : Caller α) (stream : Nat) (bytes : List UInt8) : Answer α :=
  if caller.world.isHeld (.source stream) then .reply (caller.world.append stream bytes) .done
  else
    let world := caller.world.signal caller.number Signal.brokenPipe
    if (world.process? caller.number).isSome then .reply world (.failed .brokenPipe) else .gone world

def writeFile (caller : Caller α) (place : Location) (bytes : List UInt8) : Answer α :=
  match caller.world.tree.root.get? place with
  | some (.file content executable) =>
    .reply { caller.world with tree := caller.world.tree.put place (.file (content ++ bytes) executable) } .done
  | _ => caller.done

def write (caller : Caller α) (descriptor : Nat) (bytes : List UInt8) : Answer α :=
  match caller.handle? descriptor with
  | some (.sink stream) => caller.writeStream stream bytes
  | some (.file place) => caller.writeFile place bytes
  | some (.device _) => caller.done
  | _ => caller.fail .badDescriptor

def openBytes (caller : Caller α) (descriptor : Nat) (bytes : List UInt8) (handle : Nat → Handle) : Answer α :=
  let (world, stream) := caller.world.addStream bytes
  let process := { caller.process with descriptors := caller.process.descriptors.set descriptor (handle stream) }
  .reply (world.setProcess caller.number process) .done

/-- Bytes that were read from a file are read again next time. Elsewhere they are gone. -/
def giveBack (caller : Caller α) (descriptor : Nat) (bytes : List UInt8) : Answer α :=
  match caller.handle? descriptor with
  | some (.stored stream _) => .reply (caller.world.setContent stream (bytes ++ caller.world.content stream)) .done
  | _ => caller.done

def storedSize (caller : Caller α) (descriptor : Nat) : Answer α :=
  match caller.handle? descriptor with
  | some (.stored _ size) => .reply caller.world (.number size)
  | _ => caller.fail .badDescriptor

def duplicate (caller : Caller α) (source target : Nat) : Answer α :=
  match caller.handle? source with
  | none => caller.fail .badDescriptor
  | some handle => .reply (caller.withDescriptors (caller.process.descriptors.set target handle)) .done

def openDevice (caller : Caller α) (descriptor : Nat) (device : Device) : Answer α :=
  match device with
  | .descriptor source => if (caller.handle? source).isSome then caller.duplicate source descriptor else caller.fail .notFound
  | device => .reply (caller.withDescriptors (caller.process.descriptors.set descriptor (.device device))) .done

/-- A file is read as it is when it is opened. -/
def openRead (caller : Caller α) (descriptor : Nat) (path : Path) : Answer α :=
  match caller.world.tree.find caller.place path with
  | .error fault => caller.fail fault
  | .ok (.directory _) => caller.fail .isDirectory
  | .ok (.device device) => caller.openDevice descriptor device
  | .ok (.file content _) => caller.openBytes descriptor content fun stream => .stored stream content.length

def openWrite (caller : Caller α) (descriptor : Nat) (path : Path) (keeps : Bool) : Answer α :=
  match caller.world.tree.placeFor caller.place path with
  | .error fault => caller.fail fault
  | .ok place =>
    let opened (content : List UInt8) (executable : Bool) : Answer α :=
      let tree := caller.world.tree.put place (.file content executable)
      .reply { caller.withDescriptors (caller.process.descriptors.set descriptor (.file place)) with tree } .done
    match caller.world.tree.root.get? place with
    | some (.directory _) => caller.fail .isDirectory
    | some (.device device) => caller.openDevice descriptor device
    | some (.file content executable) => opened (if keeps then content else []) executable
    | none => opened [] false

def openFile (caller : Caller α) (descriptor : Nat) (path : Path) : OpenMode → Answer α
  | .read => caller.openRead descriptor path
  | .write => caller.openWrite descriptor path false
  | .append => caller.openWrite descriptor path true

def connect (caller : Caller α) : Answer α :=
  let (world, stream) := caller.world.addStream []
  let reading := caller.process.descriptors.fresh
  let descriptors := (caller.process.descriptors.set reading (.source stream)).set (reading + 1) (.sink stream)
  .reply (world.setProcess caller.number { caller.process with descriptors }) (.pair reading (reading + 1))

def restoreDescriptors (caller : Caller α) : Answer α :=
  match caller.process.kept with
  | [] => caller.done
  | descriptors :: kept => .reply (caller.replace { caller.process with descriptors, kept }) .done

def sleep (caller : Caller α) (micros : Nat) : Answer α :=
  match caller.process.wakesAt with
  | none =>
    if micros = 0 then caller.done
    else
      .reply (caller.replace { caller.process with wakesAt := some (caller.world.clock + micros) }) (.number micros)
  | some time =>
    if time ≤ caller.world.clock then .reply (caller.replace { caller.process with wakesAt := none }) .done else .blocked

def wait (caller : Caller α) (child : Nat) : Answer α :=
  match caller.world.reap caller.number child with
  | some (world, status) => .reply world (.status status)
  | none =>
    match caller.world.process? child with
    | some process => if process.parent = caller.number then .blocked else caller.fail .notFound
    | none => caller.fail .notFound

def kill (caller : Caller α) (target signal : Nat) : Answer α :=
  let target := if target = 0 then caller.number else target
  if (caller.world.process? target).isNone then
    if caller.world.ended.any (·.process = target) then caller.done else caller.fail .notFound
  else
    let world := caller.world.signal target signal
    if (world.process? caller.number).isSome then .reply world .done else .gone world

def killAll (caller : Caller α) (target signal : Nat) : Answer α :=
  let world := (caller.world.household target).foldl (fun world number => world.signal number signal) caller.world
  if (world.process? caller.number).isSome then .reply world .done else .gone world

def dispose (caller : Caller α) (signal : Nat) (disposition : Disposition) : Answer α :=
  if !Signal.canBeIgnored signal then caller.done
  else
    let others := caller.process.dispositions.filter (·.1 != signal)
    .reply (caller.replace { caller.process with dispositions := (signal, disposition) :: others }) .done

def inspect (caller : Caller α) (path : Path) : Answer α :=
  match caller.world.tree.find caller.place path with
  | .error fault => caller.fail fault
  | .ok (.directory _) => .reply caller.world (.kind .directory)
  | .ok (.file content executable) => .reply caller.world (.kind (.file content.length executable))
  | .ok (.device _) => .reply caller.world (.kind .device)

/-- The names in a directory, in order. -/
def entries (caller : Caller α) (path : Path) : Answer α :=
  match caller.world.tree.find caller.place path with
  | .error fault => caller.fail fault
  | .ok (.directory entries) =>
    .reply caller.world (.names ((entries.map fun (name, _) => ByteText.ofText name).mergeSort fun a b => !(b < a)))
  | .ok _ => caller.fail .notDirectory

def enter (caller : Caller α) (path : Path) : Answer α :=
  match caller.world.tree.locate caller.place path with
  | .error fault => caller.fail fault
  | .ok place =>
    match caller.world.tree.root.get? place with
    | some (.directory _) => .reply (caller.replace { caller.process with place }) .done
    | _ => caller.fail .notDirectory

def remove (caller : Caller α) (path : Path) : Answer α :=
  match caller.world.tree.locate caller.place path with
  | .error fault => caller.fail fault
  | .ok place => .reply { caller.world with tree := caller.world.tree.remove place } .done

/-- Puts something at a path that is still free. -/
def create (caller : Caller α) (path : Path) (node : Node) (taken : Answer α) : Answer α :=
  match caller.world.tree.placeFor caller.place path with
  | .error fault => caller.fail fault
  | .ok place =>
    match caller.world.tree.root.get? place with
    | some _ => taken
    | none => .reply { caller.world with tree := caller.world.tree.put place node } .done

def allowExecution (caller : Caller α) (path : Path) (allowed : Bool) : Answer α :=
  match caller.world.tree.locate caller.place path with
  | .error fault => caller.fail fault
  | .ok place =>
    match caller.world.tree.root.get? place with
    | some (.file content _) => .reply { caller.world with tree := caller.world.tree.put place (.file content allowed) } .done
    | _ => caller.done

/-- The descriptors that were put aside do not live on in another program, and caught signals are standard again. -/
def execute (load : Loader α) (caller : Caller α) (path : Path) (arguments : List String)
    (environment : Environment) : Answer α :=
  match Image.load caller.world.tree caller.place path arguments with
  | .error fault => caller.fail fault
  | .ok image =>
    match load image.arguments image.program environment with
    | none => caller.fail .unknownFormat
    | some body =>
      let dispositions := caller.process.dispositions.filter (·.2 != .caught)
      let descriptors := caller.process.descriptors.filter (·.1 < Descriptors.firstFree)
      .gone (caller.replace { caller.process with environment, body, dispositions, descriptors, kept := [], caught := [] })

/-- The path that a program has given as bytes. -/
def pathOf (path : Path) : Path := ⟨ByteText.toText path.text⟩

def answer (load : Loader α) (caller : Caller α) : Call → Answer α
  | .read descriptor limit => caller.read descriptor limit
  | .write descriptor bytes => caller.write descriptor bytes
  | .openFile descriptor path mode => caller.openFile descriptor (pathOf path) mode
  | .openText descriptor bytes => caller.openBytes descriptor bytes .source
  | .giveBack descriptor bytes => caller.giveBack descriptor bytes
  | .storedSize descriptor => caller.storedSize descriptor
  | .duplicate source target => caller.duplicate source target
  | .close descriptor => .reply (caller.withDescriptors (caller.process.descriptors.erase descriptor)) .done
  | .connect => caller.connect
  | .keepDescriptors =>
    .reply (caller.replace { caller.process with kept := caller.process.descriptors :: caller.process.kept }) .done
  | .restoreDescriptors => caller.restoreDescriptors
  | .sleep micros => caller.sleep micros
  | .wait child => caller.wait child
  | .poll child =>
    match caller.world.reap caller.number child with
    | some (world, status) => .reply world (.status status)
    | none => caller.done
  | .waitForNews child =>
    match caller.process.caught.getLast? with
    | some signal => .reply caller.world (.interrupted signal)
    | none => caller.wait child
  | .kill target signal => caller.kill target signal
  | .killAll target signal => caller.killAll target signal
  | .dispose signal disposition => caller.dispose signal disposition
  | .caughtSignals =>
    .reply (caller.replace { caller.process with caught := [] }) (.numbers caller.process.caught)
  | .inspect path => caller.inspect (pathOf path)
  | .entries path => caller.entries (pathOf path)
  | .locate path =>
    match caller.world.tree.locate caller.place (pathOf path) with
    | .ok place => .reply caller.world (.text (ByteText.ofText ("/" ++ "/".intercalate place)))
    | .error fault => caller.fail fault
  | .enter path => caller.enter (pathOf path)
  | .currentDirectory => .reply caller.world (.text (ByteText.ofText ("/" ++ "/".intercalate caller.place)))
  | .remove path => caller.remove (pathOf path)
  | .makeDirectory path => caller.create (pathOf path) (.directory []) (caller.fail .alreadyThere)
  | .touch path => caller.create (pathOf path) (.file [] false) caller.done
  | .allowExecution path allowed => caller.allowExecution (pathOf path) allowed
  | .processNumber => .reply caller.world (.number caller.number)
  | .parentNumber => .reply caller.world (.number caller.process.parent)
  | .execute path arguments environment => caller.execute load (pathOf path) arguments environment
  | .pause => caller.done

end Caller

end World

end BuildWatch.Machine
