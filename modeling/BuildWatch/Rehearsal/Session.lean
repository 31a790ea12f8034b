import BuildWatch.Machine.Accounts
import BuildWatch.Rehearsal.Turn

/-! Rehearsed sessions of the whole program: it is started with arguments, is written to, is read from, and is left to
itself at the end, when its input is closed. -/

namespace BuildWatch.Rehearsal

open Machine

def binDirectories : List Location := [["bin"], ["usr", "bin"]]

def devices : List (Location × Device) :=
  [(["null"], .void), (["zero"], .zeros), (["stdin"], .descriptor 0), (["stdout"], .descriptor 1),
    (["stderr"], .descriptor 2), (["fd", "0"], .descriptor 0), (["fd", "1"], .descriptor 1), (["fd", "2"], .descriptor 2)]

/-- Directories that every machine has. -/
def directories : List Location :=
  [["bin"], ["boot"], ["dev", "shm"], ["etc"], ["home"], ["lib"], ["lib64"], ["media"], ["mnt"], ["opt"], ["proc"], ["root"],
    ["run"], ["sbin"], ["srv"], ["sys"], ["tmp"], ["usr", "bin"], ["usr", "include"], ["usr", "lib"], ["usr", "sbin"],
    ["usr", "share"], ["usr", "local", "bin"], ["usr", "local", "lib"], ["var", "lib"], ["var", "log"], ["var", "tmp"]]

/-- Files that every machine has. -/
def plainFiles : List (Location × String) :=
  [(["etc", "group"], Account.groups), (["etc", "hostname"], "localhost\n"), (["etc", "hosts"], "127.0.0.1\tlocalhost\n"),
    (["etc", "passwd"], Account.users), (["etc", "profile"], ""), (["etc", "resolv.conf"], "")]

/-- A file tree with the programs and devices of a machine in it. -/
def furnished : FileTree :=
  let tree := directories.foldl (fun tree place => tree.put place (.directory [])) ({} : FileTree)
  let tree := plainFiles.foldl (fun tree (place, text) => tree.put place (.file (Utf8.encode text) false)) tree
  let tree := binDirectories.foldl (fun tree directory =>
    Toolbox.names.foldl (fun tree name => tree.put (directory ++ [name]) (Image.binary name)) tree) tree
  let tree := tree.put ["usr", "local", "bin", programName] (Image.binary programName)
  devices.foldl (fun tree (place, device) => tree.put ("dev" :: place) (.device device)) tree

def searchPath : String := "/usr/local/bin:/usr/bin:/bin"

/-- What a program finds in its environment besides what a session gives it. -/
def environmentWith (given : Environment) : Environment :=
  ("PATH", searchPath) :: given.map fun (name, value) => (ByteText.ofText name, ByteText.ofText value)

structure Session where
  world : World Agent
  process : Nat
  input : Nat
  output : Nat
  error : Nat

namespace Session

def begin (tree : FileTree) (place : Location) (environment : Environment) (arguments : List String) : Session :=
  let world : World Agent := { tree }
  let (world, input) := world.addStream []
  let (world, output) := world.addStream []
  let (world, error) := world.addStream []
  let environment := environmentWith environment
  let (world, process) := world.addProcess
    { parent := World.outsider
      place := place
      environment := environment
      descriptors := [(0, .source input), (1, .sink output), (2, .sink error)]
      body := .agent (Agent.ofCall arguments environment) }
  let outside := [Handle.sink input, .source output, .source error]
  { world := { world with outside }, process, input, output, error }

/-- How long a reader waits. -/
def patienceMicros : Nat := 8000000

/-- How long the end of a session may take. -/
def endMicros : Nat := 600000000

def run (goal : World Agent → Bool) (micros : Nat) (session : Session) : Session × World.RunEnd :=
  let (world, reason) := session.world.runUntil conduct goal (session.world.clock + micros) World.rounds
  ({ session with world }, reason)

/-- Lets everybody do what can be done without waiting. -/
def settle (session : Session) : Session := (session.run (fun _ => false) 0).1

def write (bytes : List UInt8) (session : Session) : Session :=
  if session.world.isHeld (.source session.input) then
    { session with world := session.world.append session.input bytes }.settle
  else session

def change (change : FileTree → FileTree) (session : Session) : Session :=
  { session with world := { session.world with tree := change session.world.tree } }.settle

/-- So many lines from the front, and what is behind them. -/
def splitLines : Nat → List UInt8 → List UInt8 × List UInt8
  | 0, bytes => ([], bytes)
  | _, [] => ([], [])
  | count + 1, byte :: rest =>
    let (lines, behind) := splitLines (if byte = LineStream.lineFeed then count else count + 1) rest
    (byte :: lines, behind)
  termination_by _ bytes => bytes.length

/-- Waits for so many lines of output, and answers whether the wait was in vain. -/
def readLines (count : Nat) (session : Session) : Session × List UInt8 × Bool :=
  let hasLines (world : World Agent) : Bool :=
    count ≤ (world.content session.output).count LineStream.lineFeed || !world.isHeld (.sink session.output)
  let (session, reason) := session.run hasLines patienceMicros
  let (lines, behind) := splitLines count (session.world.content session.output)
  ({ session with world := session.world.setContent session.output behind }, lines, reason = .late)

def hasEnded (session : Session) : Bool := (session.world.process? session.process).isNone

/-- What has been written to the output and to the error stream since the last time. -/
def collect (session : Session) : Session × List UInt8 × List UInt8 :=
  ({ session with world := (session.world.setContent session.output []).setContent session.error [] },
    session.world.content session.output, session.world.content session.error)

/-- Lets the time pass in which somebody waits for an answer. -/
def linger (session : Session) : Session := (session.run (fun world => (world.process? session.process).isNone) patienceMicros).1

/-- What a session leaves behind. A program that a signal ended has no exit code. -/
structure Outcome where
  rest : List UInt8
  error : List UInt8
  exitCode : Option Nat

def finish (session : Session) : Outcome :=
  let outside := session.world.outside.erase (.sink session.input)
  let session := { session with world := { session.world with outside } }
  let hasEnded (world : World Agent) : Bool := (world.process? session.process).isNone
  let session := (session.run hasEnded endMicros).1
  { rest := session.world.content session.output
    error := session.world.content session.error
    exitCode :=
      match session.world.reap World.outsider session.process with
      | some (_, .code code) => some code
      | _ => none }

end Session

end BuildWatch.Rehearsal
