import BuildWatch.Proofs.BoardOrder
import BuildWatch.Proofs.WatchFreshness
import BuildWatch.Proofs.WatchSessions
import Mathlib.Data.List.Induction

/-! What a watch builds. Its target is what the changes given to it have made of it. While the watch is active,
its worker was launched in the directory of that target and asked to build its file, whatever their spelling. -/

namespace BuildWatch

/-- What a change gives to a field, unless it keeps the field. -/
def Change.given? : Change α → Option (Option α)
  | keep => none
  | clear => some none
  | set value => some (some value)

/-- What the last change that does not keep a field has given to it. -/
def Change.last (changes : List (Change α)) : Option α := (changes.filterMap given?).getLast?.join

theorem Change.last_snoc (changes : List (Change α)) (change : Change α) :
    last (changes ++ [change]) = change.apply (last changes) := by
  cases change <;> simp [last, given?, apply]

theorem Change.apply_twice (change : Change α) (held : Option α) : change.apply (change.apply held) = change.apply held := by
  cases change <;> rfl

namespace Target

theorem equivalentPaths_refl (path : Option Path) : equivalentPaths path path = true := by
  cases path with
  | none => rfl
  | some path => exact path.equivalent_refl

theorem equivalent_refl (target : Target) : target.equivalent target = true := by
  simp only [equivalent, equivalentPaths_refl, Bool.and_self]

theorem equivalentPaths_some {a : Option Path} {b : Path} (same : equivalentPaths a (some b) = true) :
    ∃ path, a = some path ∧ path.equivalent b = true := by
  cases a with
  | none => cases same
  | some path => exact ⟨path, rfl, same⟩

theorem change_twice (target : Target) (change : TargetChange) :
    (target.change change).change change = target.change change := by
  simp only [Target.change, Change.apply_twice]

theorem changed_by_last (changes : List TargetChange) :
    changes.foldl Target.change {} =
      ⟨Change.last (changes.map (·.workingDirectory)), Change.last (changes.map (·.configFile))⟩ := by
  induction changes using List.reverseRecOn with
  | nil => rfl
  | append_singleton changes change ih =>
    simp only [List.foldl_append, List.foldl_cons, List.foldl_nil, ih, List.map_append, List.map_cons, List.map_nil,
      Change.last_snoc, Target.change]

end Target

namespace Watch
variable {surroundings : Surroundings}

/-! ### Changes of the target -/

def Turn.change? (turn : Turn) : Option TargetChange :=
  match turn.operation with
  | .configure change => some change
  | _ => none

def changes (turns : List Turn) : List TargetChange := turns.filterMap Turn.change?

theorem start_target (surroundings : Surroundings) (watch : Watch) :
    (watch.start surroundings).1.target = watch.target := by
  unfold start
  repeat' split
  all_goals rfl

theorem stop_target (surroundings : Surroundings) (watch : Watch) : (watch.stop surroundings).1.target = watch.target := by
  unfold stop
  split <;> rfl

/-- An event of a worker ends a run at most. -/
theorem receive_keeps (generation : UInt64) (event : WorkerEvent) (watch : Watch) :
    (watch.receive generation event).1.target = watch.target ∧
      ((watch.receive generation event).1.run = watch.run ∨ (watch.receive generation event).1.run = none) := by
  by_cases heard : watch.hears generation
  · obtain ⟨run, active, rfl⟩ := heard
    rw [receive_current active]
    cases event with
    | reported report => cases report <;> exact ⟨rfl, Or.inl rfl⟩
    | _ => exact ⟨rfl, Or.inr rfl⟩
  · rw [receive_stale heard]
    exact ⟨rfl, Or.inl rfl⟩

theorem configure_target (surroundings : Surroundings) (change : TargetChange) (watch : Watch) :
    (watch.configure surroundings change).1.target = watch.target.change change := by
  cases decided : (watch.retarget change).2.2 with
  | false => rw [configure_staying surroundings decided, retarget_watch]
  | true => rw [configure_restarting surroundings decided, start_target, stop_target, retarget_watch]

theorem Turn.perform_target (turn : Turn) (watch : Watch) :
    (turn.perform watch).1.target = turn.change?.toList.foldl Target.change watch.target := by
  obtain ⟨surroundings, operation⟩ := turn
  cases operation with
  | configure change => exact configure_target surroundings change watch
  | start => exact start_target surroundings watch
  | stop => exact stop_target surroundings watch
  | invalidate =>
    show (watch.invalidate surroundings).1.target = watch.target
    unfold invalidate
    split <;> rfl
  | receive generation event => exact (receive_keeps generation event watch).1

theorem play_target (watch : Watch) (turns : List Turn) :
    (play watch turns).1.target = (changes turns).foldl Target.change watch.target := by
  induction turns generalizing watch with
  | nil => rfl
  | cons turn later ih =>
    simp only [play, ih, turn.perform_target]
    cases given : turn.change? <;> simp [changes, given]

/-! ### Restarts -/

theorem retarget_restarts (change : TargetChange) (watch : Watch) :
    (watch.retarget change).2.2 = (watch.isActive && !(watch.target.change change).equivalent watch.target) := by
  simp only [retarget]
  split
  next restart => exact restart.symm
  next staying => exact (Bool.eq_false_iff.mpr staying).symm

/-- A target that is the same but for its spelling leaves the worker alone. -/
theorem configure_same {change : TargetChange} {watch : Watch} (surroundings : Surroundings)
    (same : watch.isActive = true → (watch.target.change change).equivalent watch.target = true) :
    watch.configure surroundings change = ({ watch with target := watch.target.change change }, [.clearDiagnostics]) := by
  have staying : (watch.isActive && !(watch.target.change change).equivalent watch.target) = false := by
    cases active : watch.isActive with
    | false => rfl
    | true => rw [same active]; rfl
  rw [configure_staying surroundings ((retarget_restarts change watch).trans staying)]
  simp only [retarget, staying, Bool.false_eq_true, if_false]

/-! ### The target of a worker -/

theorem preconditions_ok {watch : Watch} {pathExists : Path → Bool} {directory file : Path}
    (ready : watch.preconditions pathExists = .ok (directory, file)) : watch.target = ⟨some directory, some file⟩ := by
  obtain ⟨⟨workingDirectory, configFile⟩, run⟩ := watch
  unfold preconditions at ready
  cases workingDirectory with
  | none => cases ready
  | some workingDirectory =>
    cases configFile with
    | none => cases ready
    | some configFile =>
      simp only at ready
      split at ready
      · cases ready
        rfl
      · cases ready

theorem preconditions_exists {watch : Watch} {pathExists : Path → Bool} {directory file : Path}
    (ready : watch.preconditions pathExists = .ok (directory, file)) : pathExists (directory.join file) = true := by
  simp only [preconditions, preconditions_ok ready] at ready
  split at ready
  next seen => exact seen
  next => cases ready

/-- An active watch has a whole target, which is the one its worker was asked to build in the directory of its launch. -/
def Aimed (past : List Effect) (watch : Watch) : Prop :=
  ∀ run, watch.run = some run → ∃ directory file requested,
    watch.target = ⟨some directory, some file⟩ ∧
    .asked run.worker (.start run.workingDirectory requested) ∈ milestones past ∧
    directory.equivalent run.workingDirectory = true ∧ file.equivalent requested = true

theorem Aimed.idle {watch : Watch} (past : List Effect) (idle : watch.run = none) : Aimed past watch := by
  intro run active
  rw [idle] at active
  cases active

/-- Another spelling of the target makes no difference. -/
theorem Aimed.kept {past : List Effect} {watch after : Watch} (aimed : Aimed past watch) (effects : List Effect)
    (run : after.run = watch.run) (target : after.target.equivalent watch.target = true) : Aimed (past ++ effects) after := by
  intro current active
  obtain ⟨directory, file, requested, whole, asked, sameDirectory, sameFile⟩ := aimed current (run ▸ active)
  rw [whole] at target
  obtain ⟨directories, files⟩ := (Bool.and_eq_true _ _).mp target
  obtain ⟨spelledDirectory, given, respelled⟩ := Target.equivalentPaths_some directories
  obtain ⟨spelledFile, named, renamed⟩ := Target.equivalentPaths_some files
  refine ⟨spelledDirectory, spelledFile, requested, ?_, ?_, ?_, ?_⟩
  · obtain ⟨⟨workingDirectory, configFile⟩, rest⟩ := after
    cases given
    cases named
    rfl
  · rw [milestones_append]
    exact List.mem_append_left _ asked
  · rw [Path.equivalent_congr respelled]
    exact sameDirectory
  · rw [Path.equivalent_congr renamed]
    exact sameFile

theorem start_aimed (surroundings : Surroundings) {watch : Watch} (idle : watch.run = none) (past : List Effect) :
    Aimed (past ++ (watch.start surroundings).2) (watch.start surroundings).1 := by
  unfold start
  rw [if_neg (by simp [isActive, idle])]
  split
  next => exact .idle _ idle
  next directory file ready =>
    split
    next => exact .idle _ idle
    next =>
      intro run active
      cases active
      refine ⟨directory, file, file, preconditions_ok ready, ?_, directory.equivalent_refl, file.equivalent_refl⟩
      have begun := milestones_launchEffects surroundings watch directory file
      rw [milestones_append]
      refine List.mem_append_right _ ?_
      show _ ∈ milestones (launchEffects surroundings watch directory file)
      rw [begun]
      simp

theorem Aimed.perform {past : List Effect} {watch : Watch} (aimed : Aimed past watch) (turn : Turn) :
    Aimed (past ++ (turn.perform watch).2) (turn.perform watch).1 := by
  obtain ⟨surroundings, operation⟩ := turn
  cases operation with
  | configure change =>
    show Aimed (past ++ (watch.configure surroundings change).2) (watch.configure surroundings change).1
    cases decided : (watch.retarget change).2.2 with
    | false =>
      rw [configure_staying surroundings decided, retarget_watch]
      by_cases idle : watch.run = none
      · exact .idle _ idle
      · refine aimed.kept _ rfl ?_
        rw [retarget_restarts] at decided
        simpa [isActive, Option.isSome_iff_ne_none.mpr idle] using decided
    | true =>
      rw [configure_restarting surroundings decided, ← List.append_assoc]
      exact start_aimed surroundings (stop_idle surroundings _) _
  | start =>
    show Aimed (past ++ (watch.start surroundings).2) (watch.start surroundings).1
    cases idle : watch.run with
    | none => exact start_aimed surroundings idle past
    | some run =>
      have still : watch.start surroundings = (watch, []) := by simp [start, isActive, idle]
      rw [still]
      exact aimed.kept [] rfl watch.target.equivalent_refl
  | stop => exact .idle _ (stop_idle surroundings watch)
  | invalidate =>
    have still : (watch.invalidate surroundings).1 = watch := by
      unfold invalidate
      split <;> rfl
    show Aimed (past ++ (watch.invalidate surroundings).2) (watch.invalidate surroundings).1
    rw [still]
    exact aimed.kept _ rfl watch.target.equivalent_refl
  | receive generation event =>
    obtain ⟨target, same | gone⟩ := receive_keeps generation event watch
    · exact aimed.kept _ same (target ▸ watch.target.equivalent_refl)
    · exact .idle _ gone

theorem aimed_run (turns : List Turn) : Aimed (play {} turns).2 (play {} turns).1 := by
  have continued : ∀ (past : List Effect) (watch : Watch), Aimed past watch →
      Aimed (past ++ (play watch turns).2) (play watch turns).1 := by
    induction turns with
    | nil => simp [play]
    | cons turn later ih =>
      intro past watch aimed
      simpa [play] using ih _ _ (aimed.perform turn)
  simpa using continued [] {} (.idle [] rfl)

/-! ### The one beginning of a worker -/

/-- Whether a milestone launches a worker or asks it to start. -/
def Milestone.begins (worker : Nat) : Milestone → Bool
  | .launched other _ | .asked other (.start _ _) => other == worker
  | _ => false

theorem Unfinished.beginning {worker : Nat} {life : List Milestone} (unfinished : Unfinished worker life) :
    ∃ directory file, life.filter (Milestone.begins worker) =
      [.launched worker directory, .asked worker (.start directory file)] := by
  induction unfinished with
  | begun directory file => exact ⟨directory, file, by simp [Milestone.begins]⟩
  | invalidated _ ih =>
    obtain ⟨directory, file, only⟩ := ih
    exact ⟨directory, file, by simp [only, Milestone.begins]⟩

theorem Unfinished.beginning_other {worker other : Nat} (different : worker ≠ other) {life : List Milestone}
    (unfinished : Unfinished worker life) : life.filter (Milestone.begins other) = [] := by
  induction unfinished with
  | begun directory file => simp [Milestone.begins, different]
  | invalidated _ ih => simp [ih, Milestone.begins]

theorem Lives.beginning_later {count worker : Nat} (later : count ≤ worker) {history : List Milestone}
    (lives : Lives count history) : history.filter (Milestone.begins worker) = [] := by
  induction lives with
  | empty => rfl
  | next earlier whole ih =>
    rw [List.filter_append, ih (by omega), List.nil_append]
    cases whole with
    | stopped before => simp [before.beginning_other (Nat.ne_of_lt later), Milestone.begins]
    | lost before => simp [before.beginning_other (Nat.ne_of_lt later), Milestone.begins]

/-- The worker of an active watch was launched once and asked to start once, in the directory of its launch. -/
theorem beginning_of_active {turns : List Turn} {run : Run} (active : (play {} turns).1.run = some run) :
    ∃ directory file, (milestones (play {} turns).2).filter (Milestone.begins run.worker) =
      [.launched run.worker directory, .asked run.worker (.start directory file)] := by
  have standing := standing_kept.run turns
  unfold Standing at standing
  rw [active] at standing
  obtain ⟨_, past, current, shape, lives, unfinished⟩ := standing
  rw [shape, List.filter_append, lives.beginning_later (Nat.le_refl _)]
  exact unfinished.beginning

/-- While a watch is active it builds the target it shows: its worker was launched in that directory and asked to build
that file there, spelling apart, and neither was done twice. The target has in each field what the last change that
touches the field has given to it, and no other operation moves it. A change that leaves an active watch with the same
target, spelling apart, only clears the diagnostics, and so does a change that is made again. -/
theorem worker_builds_target (turns : List Turn) :
    (∀ run, (play {} turns).1.run = some run → ∃ directory file requested,
      (play {} turns).1.target = ⟨some directory, some file⟩ ∧
      (milestones (play {} turns).2).filter (Milestone.begins run.worker) =
        [.launched run.worker run.workingDirectory, .asked run.worker (.start run.workingDirectory requested)] ∧
      directory.equivalent run.workingDirectory = true ∧ file.equivalent requested = true) ∧
    (play {} turns).1.target =
      ⟨Change.last ((changes turns).map (·.workingDirectory)), Change.last ((changes turns).map (·.configFile))⟩ ∧
    (∀ turn : Turn, turn.change? = none → (turn.perform (play {} turns).1).1.target = (play {} turns).1.target) ∧
    ∀ surroundings change,
      ((play {} turns).1.isActive = true →
        ((play {} turns).1.target.change change).equivalent (play {} turns).1.target = true →
        (play {} turns).1.configure surroundings change =
          ({ (play {} turns).1 with target := (play {} turns).1.target.change change }, [.clearDiagnostics])) ∧
      ∀ others, ((play {} turns).1.configure surroundings change).1.configure others change =
        (((play {} turns).1.configure surroundings change).1, [.clearDiagnostics]) := by
  refine ⟨?_, ?_, ?_, fun surroundings change => ⟨fun _ same => configure_same surroundings fun _ => same, ?_⟩⟩
  · intro run active
    obtain ⟨directory, file, requested, whole, asked, sameDirectory, sameFile⟩ := aimed_run turns run active
    obtain ⟨launched, file', only⟩ := beginning_of_active active
    have begins : Milestone.begins run.worker (.asked run.worker (.start run.workingDirectory requested)) = true :=
      beq_self_eq_true run.worker
    have member := List.mem_filter.mpr ⟨asked, begins⟩
    simp only [only, List.mem_cons, reduceCtorEq, Milestone.asked.injEq, Request.start.injEq, true_and, false_or,
      List.not_mem_nil, or_false] at member
    obtain ⟨rfl, rfl⟩ := member
    exact ⟨directory, file, requested, whole, only, sameDirectory, sameFile⟩
  · rw [play_target, Target.changed_by_last]
  · intro turn none
    rw [turn.perform_target, none]
    rfl
  · intro others
    have again := Target.change_twice (play {} turns).1.target change
    have target := configure_target surroundings change (play {} turns).1
    rw [configure_same others fun _ => by rw [target, again]; exact Target.equivalent_refl _, target, again, ← target]

/-- Slashes and dots that mean nothing do not cost a worker its life. -/
theorem respelling_spares_worker :
    let watch := (play {} [⟨calm, .configure ⟨.set ⟨"/p"⟩, .set ⟨"w.js"⟩⟩⟩, ⟨calm, .start⟩]).1
    watch.configure calm ⟨.set ⟨"/p//."⟩, .keep⟩ =
      ({ watch with target := ⟨some ⟨"/p//."⟩, some ⟨"w.js"⟩⟩ }, [.clearDiagnostics]) :=
  ((worker_builds_target [⟨calm, .configure ⟨.set ⟨"/p"⟩, .set ⟨"w.js"⟩⟩⟩, ⟨calm, .start⟩]).2.2.2 calm _).1 rfl (by decide)

end Watch

end BuildWatch
