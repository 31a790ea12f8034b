import BuildWatch.Proofs.SettingsAutostart
import BuildWatch.Proofs.WatchDiagnostics

/-! Attempts to start. Whatever an idle watch has been through, a start depends on its target and on what it finds
there. One that comes to nothing says why and leaves no trace but a generation, so it cannot stand in the way of a
later one. -/

namespace BuildWatch.Watch
variable {surroundings : Surroundings} {watch : Watch}

/-- What a start needs: a whole target, a configuration that is there, and a launch that works. -/
def Ready (surroundings : Surroundings) (target : Target) : Prop :=
  ∃ directory file, target = ⟨some directory, some file⟩ ∧ surroundings.pathExists (directory.join file) = true ∧
    surroundings.launchFailure directory = none

/-- The first of these that is not so, and what is said about it. -/
inductive Hindered (surroundings : Surroundings) : Target → Effect → Prop where
  | noDirectory (configFile : Option Path) :
      Hindered surroundings ⟨none, configFile⟩ (.alert "No working directory (defaults to project root)")
  | noFile (directory : Path) :
      Hindered surroundings ⟨some directory, none⟩ (.warn "No webpack configuration file defined")
  | fileMissing {directory file : Path} (missing : surroundings.pathExists (directory.join file) = false) :
      Hindered surroundings ⟨some directory, some file⟩
        (.warn s!"Defined webpack configuration file doesn't exist: {(directory.join file).text}")
  | launchFails {directory file : Path} {reason : String}
      (found : surroundings.pathExists (directory.join file) = true)
      (failure : surroundings.launchFailure directory = some reason) :
      Hindered surroundings ⟨some directory, some file⟩ (.alert s!"webpack error: '{reason}'")

theorem Hindered.not_ready {target : Target} {complaint : Effect} (hindered : Hindered surroundings target complaint) :
    ¬ Ready surroundings target := by
  rintro ⟨directory, file, whole, found, success⟩
  cases hindered with
  | noDirectory | noFile => cases whole
  | fileMissing missing =>
    cases whole
    rw [missing] at found
    cases found
  | launchFails _ failure =>
    cases whole
    rw [failure] at success
    cases success

theorem refusal_hindered {reason : StartError} (refused : watch.preconditions surroundings.pathExists = .error reason) :
    Hindered surroundings watch.target (refusal reason) := by
  obtain ⟨⟨workingDirectory, configFile⟩, run⟩ := watch
  unfold preconditions at refused
  cases workingDirectory with
  | none =>
    cases refused
    exact .noDirectory configFile
  | some directory =>
    cases configFile with
    | none =>
      cases refused
      exact .noFile directory
    | some file =>
      simp only at refused
      split at refused
      next => cases refused
      next missing =>
        cases refused
        exact .fileMissing (Bool.eq_false_iff.mpr missing)

/-- What a host gets to see. Notes only go to the log of the program itself. -/
def outward (effects : List Effect) : List Effect :=
  effects.filter fun
    | .note _ => false
    | _ => true

/-- A start that has come to nothing. -/
structure Vain (surroundings : Surroundings) (watch : Watch) : Prop where
  unchanged : (watch.start surroundings).1 =
    { watch with nextGeneration := (watch.start surroundings).1.nextGeneration }
  complains : ∃ complaint, Hindered surroundings watch.target complaint ∧
    outward (watch.start surroundings).2 = [complaint]
  board : ∀ board, (watch.start surroundings).2.foldl Board.apply board = board

theorem refusal_vain (idle : watch.run = none) {reason : StartError}
    (refused : watch.preconditions surroundings.pathExists = .error reason) : Vain surroundings watch where
  unchanged := by rw [start_refused idle refused]
  complains := by
    refine ⟨refusal reason, refusal_hindered refused, ?_⟩
    rw [start_refused idle refused]
    cases reason <;> rfl
  board := by
    rw [start_refused idle refused]
    cases reason <;> exact fun _ => rfl

theorem launchFailure_vain (idle : watch.run = none) {directory file : Path} {reason : String}
    (ready : watch.preconditions surroundings.pathExists = .ok (directory, file))
    (failure : surroundings.launchFailure directory = some reason) : Vain surroundings watch := by
  have attempted := start_ready idle ready
  simp only [Attempted, failure] at attempted
  refine ⟨?_, ⟨.alert s!"webpack error: '{reason}'", ?_, ?_⟩, ?_⟩
  · rw [attempted]
  · rw [preconditions_ok ready]
    exact .launchFails (preconditions_exists ready) failure
  · rw [attempted]
    rfl
  · rw [attempted]
    exact fun _ => rfl

theorem Vain.idle (vain : Vain surroundings watch) (idle : watch.run = none) :
    (watch.start surroundings).1.run = none := by
  rw [vain.unchanged]
  exact idle

/-- An idle watch starts, or it complains. -/
theorem start_cases (idle : watch.run = none) :
    Ready surroundings watch.target ∧ (watch.start surroundings).1.isActive = true ∨ Vain surroundings watch := by
  cases checked : watch.preconditions surroundings.pathExists with
  | error reason => exact .inr (refusal_vain idle checked)
  | ok paths =>
    obtain ⟨directory, file⟩ := paths
    cases launched : surroundings.launchFailure directory with
    | some reason => exact .inr (launchFailure_vain idle checked launched)
    | none =>
      refine .inl ⟨⟨directory, file, preconditions_ok checked, preconditions_exists checked, launched⟩, ?_⟩
      simp [start, isActive, idle, checked, launched]

theorem start_active_iff (idle : watch.run = none) :
    (watch.start surroundings).1.isActive = true ↔ Ready surroundings watch.target := by
  rcases @start_cases surroundings watch idle with ⟨ready, active⟩ | vain
  · exact iff_of_true active ready
  · obtain ⟨complaint, hindered, _⟩ := vain.complains
    refine iff_of_false ?_ hindered.not_ready
    simp [isActive, vain.idle idle]

theorem start_vain (idle : watch.run = none) (hindered : ¬ Ready surroundings watch.target) : Vain surroundings watch :=
  (start_cases idle).resolve_left fun started => hindered started.1

/-! ### Starts in a row -/

def starts (attempts : List Surroundings) : List Turn := attempts.map (⟨·, .start⟩)

/-- However often a watch has failed to start, only its generations have gone on. -/
theorem play_starts (idle : watch.run = none) {failures : List Surroundings}
    (hindered : ∀ failed ∈ failures, ¬ Ready failed watch.target) :
    (play watch (starts failures)).1 = { watch with nextGeneration := (play watch (starts failures)).1.nextGeneration } := by
  induction failures generalizing watch with
  | nil => rfl
  | cons failed failures ih =>
    obtain ⟨first, others⟩ := List.forall_mem_cons.mp hindered
    have vain := start_vain idle first
    have later := ih (vain.idle idle) (by rwa [start_target])
    have shape : (play watch (starts (failed :: failures))).1 =
        (play (watch.start failed).1 (starts failures)).1 := rfl
    rw [shape, later, vain.unchanged]

theorem start_launched (idle : watch.run = none) {directory file : Path}
    (ready : watch.preconditions surroundings.pathExists = .ok (directory, file))
    (success : surroundings.launchFailure directory = none) :
    (watch.start surroundings).2 = launchEffects surroundings watch directory file := by
  simp [start, isActive, idle, ready, success, launchEffects]

/-- At another generation the same worker is started, and asked the same. -/
theorem milestones_start (idle : watch.run = none) (surroundings : Surroundings) (generation : UInt64) :
    milestones (start surroundings { watch with nextGeneration := generation }).2 =
      milestones (watch.start surroundings).2 := by
  have still : ({ watch with nextGeneration := generation } : Watch).run = none := idle
  cases checked : watch.preconditions surroundings.pathExists with
  | error reason => rw [start_refused idle checked, start_refused still checked]
  | ok paths =>
    obtain ⟨directory, file⟩ := paths
    cases launched : surroundings.launchFailure directory with
    | some reason =>
      have failed := start_ready idle checked
      have also := start_ready still checked
      simp only [Attempted, launched] at failed also
      rw [failed, also]
    | none =>
      rw [start_launched idle checked launched, start_launched still checked launched, milestones_launchEffects,
        milestones_launchEffects]

/-- Whatever has happened to a watch before it became idle, a start makes it active exactly if its target is whole, the
configuration is there and the launch works, and a request that gets lost makes no difference. Otherwise the host is told
the first reason and nothing else, and the watch and its board stay as they are, but for the generation. So after any
number of such starts, a later one succeeds as if it were the first, and with the same worker. -/
theorem start_succeeds_iff_ready {turns : List Turn} (idle : (play {} turns).1.run = none) (surroundings : Surroundings) :
    let watch := (play {} turns).1
    ((watch.start surroundings).1.isActive = true ↔ Ready surroundings watch.target) ∧
    (∀ sendFailure, (watch.start { surroundings with sendFailure }).1 = (watch.start surroundings).1) ∧
    (¬ Ready surroundings watch.target →
      (∃ complaint, Hindered surroundings watch.target complaint ∧
        outward (watch.start surroundings).2 = [complaint]) ∧
      (watch.start surroundings).1 = { watch with nextGeneration := (watch.start surroundings).1.nextGeneration } ∧
      boardOf ((play {} turns).2 ++ (watch.start surroundings).2) = boardOf (play {} turns).2) ∧
    ∀ failures : List Surroundings, (∀ failed ∈ failures, ¬ Ready failed watch.target) →
      let later := (play {} (turns ++ starts failures)).1
      later = { watch with nextGeneration := later.nextGeneration } ∧
      ((later.start surroundings).1.isActive = true ↔ Ready surroundings watch.target) ∧
      milestones (later.start surroundings).2 = milestones (watch.start surroundings).2 := by
  intro watch
  refine ⟨start_active_iff idle, ?_, ?_, ?_⟩
  · intro sendFailure
    simp only [start]
    repeat' split
    all_goals rfl
  · intro hindered
    have vain := start_vain idle hindered
    refine ⟨vain.complains, vain.unchanged, ?_⟩
    rw [boardOf, List.foldl_append, vain.board]
    rfl
  · intro failures hindered later
    have shape : later = (play watch (starts failures)).1 := by
      show (play {} (turns ++ starts failures)).1 = _
      rw [play_append]
    have same : later = { watch with nextGeneration := later.nextGeneration } := by
      rw [shape]
      exact play_starts idle hindered
    refine ⟨same, ?_, ?_⟩
    · rw [same]
      exact start_active_iff idle
    · rw [same]
      exact milestones_start idle surroundings later.nextGeneration

/-- A worker crashes in the midst of a build, and the next two cannot be started. Then the request to start gets lost, but
the watch is active again. -/
theorem start_recovers_from_crash :
    let turns : List Turn := [⟨calm, .configure ⟨.set ⟨"/p"⟩, .set ⟨"w.js"⟩⟩⟩, ⟨calm, .start⟩,
      ⟨calm, .receive 0 (.reported (.progress 50 false))⟩, ⟨calm, .receive 0 (.exited (some 1))⟩]
    let broken : Surroundings := { calm with launchFailure := fun _ => some "no" }
    let bare : Surroundings := { calm with pathExists := fun _ => false }
    let mute : Surroundings := { calm with sendFailure := fun _ => some "gone" }
    (play {} turns).1.run = none ∧
    (∀ failed ∈ [broken, bare], ¬ Ready failed (play {} turns).1.target) ∧
    (∃ complaint, Hindered broken (play {} turns).1.target complaint ∧
      outward ((play {} turns).1.start broken).2 = [complaint]) ∧
    ((play {} (turns ++ starts [broken, bare])).1.start mute).1.isActive = true := by
  intro turns broken bare mute
  have idle : (play {} turns).1.run = none := rfl
  have refused : broken.launchFailure ⟨"/p"⟩ = some "no" := rfl
  have first : ¬ Ready broken (play {} turns).1.target := (Hindered.launchFails rfl refused).not_ready
  have second : ¬ Ready bare (play {} turns).1.target := (Hindered.fileMissing rfl).not_ready
  have hindered : ∀ failed ∈ [broken, bare], ¬ Ready failed (play {} turns).1.target :=
    List.forall_mem_cons.mpr ⟨first, List.forall_mem_singleton.mpr second⟩
  refine ⟨idle, hindered, ((start_succeeds_iff_ready idle broken).2.2.1 first).1, ?_⟩
  exact ((start_succeeds_iff_ready idle mute).2.2.2 _ hindered).2.1.mpr ⟨⟨"/p"⟩, ⟨"w.js"⟩, rfl, rfl, rfl⟩

end BuildWatch.Watch
