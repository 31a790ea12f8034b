import BuildWatch.Proofs.PathWalks
import BuildWatch.Proofs.WatchTargets
import BuildWatch.Rehearsal.Turn

/-! Where a watch and its worker look for the configuration. Both follow the same path, but each from its own current
directory, and that of the worker is the working directory already. So they see the same if the working directory leads
back to itself from within, as absolute ones do; a relative one is entered twice. Besides, the watch asks for anything at
all under the path and the worker for a file. -/

namespace BuildWatch.Watch

theorem launch_of_ready {surroundings : Surroundings} {watch : Watch} {directory file : Path} (idle : watch.run = none)
    (ready : watch.preconditions surroundings.pathExists = .ok (directory, file))
    (success : surroundings.launchFailure directory = none) :
    .launch watch.launches watch.nextGeneration directory ∈ (watch.start surroundings).2 := by
  simp [start, isActive, idle, ready, success]

/-- A launch follows a check that has found the configuration, and asks for a start with the same paths. -/
theorem start_launches {surroundings : Surroundings} {watch : Watch} {worker : Nat} {generation : UInt64} {directory : Path}
    (launched : .launch worker generation directory ∈ (watch.start surroundings).2) :
    ∃ file, watch.preconditions surroundings.pathExists = .ok (directory, file) ∧
      surroundings.launchFailure directory = none ∧
      delivery worker (.start directory file) (surroundings.sendFailure (.start directory file)) ∈
        (watch.start surroundings).2 := by
  cases held : watch.run with
  | some run => simp [start, isActive, held] at launched
  | none =>
    have move := start_move surroundings held
    generalize (watch.start surroundings).1 = after, (watch.start surroundings).2 = effects at move launched ⊢
    obtain ⟨-, rfl, rfl, run⟩ := move.launch_mem launched
    cases move with
    | launched directory file idle ready success =>
      cases run
      exact ⟨file, ready, success, by simp [launchEffects]⟩
    | refused | launchFailed =>
      have active := congrArg (·.run) run
      rw [show watch.run = none from held] at active
      cases active

end BuildWatch.Watch

namespace BuildWatch.Tool
open Text

private theorem configMissing_message (file : Path) :
    (CommandError.configMissing file).message = "configuration file " ++ (file.text ++ " doesn't exist") :=
  String.append_assoc

theorem configMissing_ne_toolNotFound (file : Path) (tool : String) (directory : Path) :
    (CommandError.configMissing file).message ≠ (CommandError.toolNotFound tool directory).message := by
  have unfound : (CommandError.toolNotFound tool directory).message =
      "cannot resolve '" ++ (tool ++ ("' from " ++ directory.text)) := by
    rw [← String.append_assoc, ← String.append_assoc]
    rfl
  rw [configMissing_message, unfound]
  exact append_ne_append 2 (by decide) (by decide) (by decide) _ _

theorem configMissing_ne_spawnFault (file program : Path) (cause : String) :
    (CommandError.configMissing file).message ≠ s!"Failed to spawn {program.text}: {cause}" := by
  have failed : s!"Failed to spawn {program.text}: {cause}" = "Failed to spawn " ++ (program.text ++ (": " ++ cause)) := by
    rw [← String.append_assoc, ← String.append_assoc]
    rfl
  rw [configMissing_message, failed]
  exact append_ne_append 1 (by decide) (by decide) (by decide) _ _

theorem findTool_error {isFile : Path → Bool} {tool : String} {directory : Path} {reason : CommandError}
    (failed : findTool isFile tool directory = .error reason) : reason = .toolNotFound tool directory := by
  unfold findTool at failed
  split at failed
  next => cases failed
  next => exact (Except.error.inj failed).symm

end BuildWatch.Tool

namespace BuildWatch.Worker
open Tool

theorem close_notes {worker : Worker} {record : LogRecord} (noted : .note record ∈ worker.close.2) :
    record.level = .debug := by
  cases held : worker.session with
  | none => simp [close, held] at noted
  | some session =>
    have same : record = .of .debug "watch session closed" := by
      cases ran : session.process <;> simpa [close, held, closing, ran] using noted
    rw [same]
    rfl

theorem openSession_misses (surroundings : ToolSurroundings) (directory file : Path) (worker : Worker) :
    .note (.of .error (CommandError.configMissing (directory.join file)).message) ∈
        (worker.openSession surroundings directory file).2 ↔
      surroundings.isFile (directory.join file) = false := by
  cases seen : surroundings.isFile (directory.join file) with
  | false => simp [openSession, Command.find, seen]
  | true =>
    refine iff_of_false (fun noted => ?_) (by decide)
    cases found : findTool surroundings.isFile worker.tool directory with
    | error reason =>
      cases findTool_error found
      simp [openSession, Command.find, seen, found, LogRecord.of, configMissing_ne_toolNotFound] at noted
    | ok program =>
      simp only [openSession, Command.find, seen, found, spawn] at noted
      cases fault : surroundings.spawnFailure ⟨program, watchArguments (directory.join file), directory⟩ with
      | none => simp [fault, LogRecord.of] at noted
      | some cause => simp [fault, LogRecord.of, spawnFault, configMissing_ne_spawnFault] at noted

/-- A configuration is missed exactly if it is no file. Nothing else is noted in these words. -/
theorem obey_start_misses (surroundings : ToolSurroundings) (directory file : Path) (worker : Worker) :
    .note (.of .error (CommandError.configMissing (directory.join file)).message) ∈
        (worker.obey surroundings (.start directory file)).2.1 ↔
      surroundings.isFile (directory.join file) = false := by
  rw [← openSession_misses surroundings directory file worker.close.1]
  refine ⟨fun noted => ?_, List.mem_append_right _⟩
  rcases List.mem_append.mp noted with closing | beginning
  · cases close_notes closing
  · exact beginning

end BuildWatch.Worker

namespace BuildWatch.Machine.World
variable {α : Type} {world : World α} {place inner : Location} {environment : Environment} {directory program : Path}
  {arguments : List String} {image : Image}

/-- A program starts in the place that its directory leads to. -/
theorem locate_of_imageIn (found : world.imageIn place environment directory program arguments = .ok (inner, image)) :
    world.tree.locate place directory = .ok inner := by
  unfold imageIn at found
  split at found
  next => cases found
  next =>
    split at found
    next => cases found
    next other leads =>
      split at found
      next => cases found
      next =>
        simp only at found
        cases loaded : Image.find world.tree other (searchPath environment) program
            ((program.text :: arguments).map ByteText.ofText) with
        | error fault =>
          rw [loaded] at found
          cases found
        | ok result =>
          rw [loaded] at found
          cases found
          exact leads

theorem setProcess_numbers (number : Nat) (process : Process α) (world : World α) :
    (world.setProcess number process).processes.map (·.1) = world.processes.map (·.1) := by
  simp only [setProcess, List.map_map]
  refine List.map_congr_left fun entry _ => ?_
  simp only [Function.comp]
  split <;> rfl

end BuildWatch.Machine.World

namespace BuildWatch.Rehearsal
open Machine Tool

namespace Scene

/-- Two scenes that differ by a spawn: no file has changed, and one process at most has been added, at a place. -/
structure Spawned (before after : Scene) (place : Location) : Prop where
  tree : after.world.tree = before.world.tree
  processes : ∃ held added, after.world.processes = held ++ added ∧
    held.map (·.1) = before.world.processes.map (·.1) ∧ added.length ≤ 1 ∧ ∀ entry ∈ added, entry.2.place = place

theorem spawn_spawned {scene : Scene} {directory program : Path} {arguments : List String} {inner : Location}
    {image : Image} (found : scene.world.imageIn scene.place scene.environment directory program arguments = .ok (inner, image))
    (load : Loader Agent) (key : Nat) (generation : UInt64) :
    Spawned scene (scene.spawn load key generation program arguments directory) inner := by
  cases present : scene.process? with
  | none =>
    simp only [spawn, found, present]
    exact ⟨rfl, scene.world.processes, [], (List.append_nil _).symm, rfl, by simp, by simp⟩
  | some process =>
    simp only [spawn, found, present]
    cases loaded : load image.arguments image.program process.environment with
    | none =>
      simp only [World.spawn, loaded]
      exact ⟨rfl, _, [], (List.append_nil _).symm, World.setProcess_numbers _ _ _, by simp, by simp⟩
    | some body =>
      simp only [World.spawn, loaded]
      exact ⟨rfl, _, [_], rfl, World.setProcess_numbers _ _ _, Nat.le_refl 1, by simp⟩

theorem imageIn_of_launchFailure {scene : Scene} {tool : String} {present : Option Nat} {directory : Path}
    (success : (scene.surroundings tool present).launchFailure directory = none) : ∃ inner image,
    scene.world.imageIn scene.place scene.environment directory programPath (Link.arguments tool) = .ok (inner, image) := by
  simp only [surroundings, spawnFault?, Option.map_eq_none_iff] at success
  split at success
  next result found => exact ⟨result.1, result.2, found⟩
  next => cases success

theorem find_of_pathExists {scene : Scene} {path : Path} (seen : scene.pathExists path = true) :
    ∃ node, scene.world.tree.find scene.place path = .ok node := by
  unfold pathExists FileTree.pathExists at seen
  cases found : scene.world.tree.find scene.place path with
  | error fault =>
    rw [found] at seen
    cases seen
  | ok node => exact ⟨node, rfl⟩

end Scene

/-- A worker that has just been launched misses its configuration exactly if no file is under the path as seen from the
working directory, which is where the worker stands. The watch has found something under the same path from where it stands
itself. If one of the two paths is absolute, or the working directory leads back to itself from within, this is the very
thing the worker finds, and only what is no file is missed. -/
theorem launched_worker_misses_iff (host : Scene) (tool : String) (watch : Watch) {worker : Nat} {generation : UInt64}
    {directory : Path}
    (launched : .launch worker generation directory ∈ (watch.start (host.watchSurroundings tool watch)).2) :
    ∃ file inner node,
      watch.target = ⟨some directory, some file⟩ ∧
      host.world.tree.locate host.place directory = .ok inner ∧
      .send worker (.start directory file) ∈ (watch.start (host.watchSurroundings tool watch)).2 ∧
      host.world.tree.find host.place (directory.join file) = .ok node ∧
      (∀ load key, Scene.Spawned host (host.spawn load key generation programPath (Link.arguments tool) directory) inner) ∧
      (∀ (there : Scene) (service : Worker), there.place = inner → there.world.tree = host.world.tree →
        (.note (.of .error (CommandError.configMissing (directory.join file)).message) ∈
            (service.obey there.toolSurroundings (.start directory file)).2.1 ↔
          host.world.tree.isFile inner (directory.join file) = false)) ∧
      (directory.isAbsolute = true ∨ file.isAbsolute = true ∨ host.world.tree.locate inner directory = .ok inner →
        host.world.tree.isFile inner (directory.join file) = node.isFile) := by
  obtain ⟨file, ready, success, sent⟩ := Watch.start_launches launched
  obtain ⟨inner, image, found⟩ := Scene.imageIn_of_launchFailure success
  have seen : host.pathExists (directory.join file) = true := Watch.preconditions_exists ready
  obtain ⟨node, held⟩ := Scene.find_of_pathExists seen
  refine ⟨file, inner, node, Watch.preconditions_ok ready, World.locate_of_imageIn found, sent, held,
    fun load key => Scene.spawn_spawned found load key generation, ?_, ?_⟩
  · intro there service stands unchanged
    rw [service.obey_start_misses, Scene.toolSurroundings, stands, unchanged]
  · intro back
    have same := FileTree.find_within (World.locate_of_imageIn found) held back
    simp only [FileTree.isFile, same]

/-- A project with a configuration file, and with a directory in the place of another. -/
def projectTree : FileTree := ⟨.directory [
  ("app", .directory [("webpack.config.js", .file [] false), ("webpack", .directory [])]),
  ("usr", .directory [("local", .directory [("bin", .directory [(programName, Image.binary programName)])])])]⟩

/-- An agent that stands somewhere among the files of that project. -/
def standing (place : Location) : Scene where
  world := { tree := projectTree, processes := [(1, { parent := 0, place, body := .agent (.ofCall [] []) })] }
  number := 1
  agent := .ofCall [] []

def watching (directory file : Path) : Watch := { target := ⟨some directory, some file⟩ }

/-- A relative working directory is entered twice, so its worker misses a file that is there. And where a directory stands
for the configuration file, the worker misses what the watch was content with. -/
theorem worker_misses_what_watch_saw :
    let starting (directory file : Path) :=
      ((watching directory file).start ((standing []).watchSurroundings "webpack" (watching directory file))).2
    let obeying (directory file : Path) :=
      (({ tool := "webpack" } : Worker).obey (standing ["app"]).toolSurroundings (.start directory file)).2.1
    projectTree.locate (standing []).place ⟨"app"⟩ = .ok (standing ["app"]).place ∧
      .launch 0 0 ⟨"app"⟩ ∈ starting ⟨"app"⟩ ⟨"webpack.config.js"⟩ ∧
      obeying ⟨"app"⟩ ⟨"webpack.config.js"⟩ =
        [.note (.of .error "configuration file app/webpack.config.js doesn't exist")] ∧
      projectTree.locate (standing []).place ⟨"/app"⟩ = .ok (standing ["app"]).place ∧
      .launch 0 0 ⟨"/app"⟩ ∈ starting ⟨"/app"⟩ ⟨"webpack"⟩ ∧
      obeying ⟨"/app"⟩ ⟨"webpack"⟩ = [.note (.of .error "configuration file /app/webpack doesn't exist")] := by
  intro starting obeying
  refine ⟨by rfl, Watch.launch_of_ready rfl (by rfl) ?_, by rfl, by rfl, Watch.launch_of_ready rfl (by rfl) ?_, by rfl⟩
  · decide +kernel
  · decide +kernel

/-- An absolute working directory leads the worker to the configuration file. -/
theorem absolute_directory_is_entered_once :
    .launch 0 0 ⟨"/app"⟩ ∈ ((watching ⟨"/app"⟩ ⟨"webpack.config.js"⟩).start
        ((standing []).watchSurroundings "webpack" (watching ⟨"/app"⟩ ⟨"webpack.config.js"⟩))).2 ∧
      .note (.of .error (CommandError.configMissing ⟨"/app/webpack.config.js"⟩).message) ∉
        (({ tool := "webpack" } : Worker).obey (standing ["app"]).toolSurroundings
          (.start ⟨"/app"⟩ ⟨"webpack.config.js"⟩)).2.1 := by
  have launched : .launch 0 0 ⟨"/app"⟩ ∈ ((watching ⟨"/app"⟩ ⟨"webpack.config.js"⟩).start
      ((standing []).watchSurroundings "webpack" (watching ⟨"/app"⟩ ⟨"webpack.config.js"⟩))).2 :=
    Watch.launch_of_ready rfl (by rfl) (by decide +kernel)
  refine ⟨launched, fun noted => ?_⟩
  obtain ⟨file, inner, node, target, leads, sent, held, spawned, misses, same⟩ :=
    launched_worker_misses_iff (standing []) "webpack" (watching ⟨"/app"⟩ ⟨"webpack.config.js"⟩) launched
  cases target
  cases leads
  cases held
  have missed := (misses (standing ["app"]) { tool := "webpack" } rfl rfl).mp noted
  rw [same (Or.inl (by decide))] at missed
  cases missed

end BuildWatch.Rehearsal
