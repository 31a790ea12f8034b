import BuildWatch.Proofs.WatchFreshness
import Mathlib.Data.List.Induction

/-! The build status of a watch. It is always what observers were told last. A stop sets it back, but the loss of a
worker leaves it alone, so an idle watch goes on showing a build just if its last worker was lost in the midst of one. -/

namespace BuildWatch.Watch
variable {surroundings : Surroundings}

/-! ### What observers were told last -/

def status? : Effect → Option BuildStatus
  | .statusChanged status => some status
  | _ => none

def lastStatus? (effects : List Effect) : Option BuildStatus := (effects.filterMap status?).getLast?

theorem lastStatus?_append (first second : List Effect) :
    lastStatus? (first ++ second) = (lastStatus? second).or (lastStatus? first) := by
  simp only [lastStatus?, List.filterMap_append, List.getLast?_append]

theorem lastStatus?_snoc (effects : List Effect) (status : BuildStatus) :
    lastStatus? (effects ++ [.statusChanged status]) = some status := by
  rw [lastStatus?_append]
  rfl

private theorem retarget_lastStatus? (change : TargetChange) (watch : Watch) :
    lastStatus? (watch.retarget change).2.1 = none := by
  simp only [retarget]
  split <;> rfl

private theorem loss_lastStatus? (event : WorkerEvent) (run : Run) (watch : Watch) :
    lastStatus? (lossEffects event ++ (watch.abandon run).2) = none := by
  cases event with
  | exited code =>
    simp only [lossEffects, crashEffects]
    split <;> rfl
  | _ => rfl

private theorem onReport_status (run : Run) (report : Report) (watch : Watch) :
    (watch.onReport run report).1.status = (lastStatus? (watch.onReport run report).2).getD watch.status := by
  cases report with
  | finished outcome =>
    simp only [onReport, withStatus, lastStatus?_snoc]
    rfl
  | _ => rfl

/-- A move changes the status just as it tells observers. -/
theorem Move.status {watch after : Watch} {attempted : Nat} {effects : List Effect}
    (move : Move surroundings watch attempted effects after) :
    after.status = (lastStatus? effects).getD watch.status := by
  cases move with
  | retargeted change => rw [retarget_lastStatus?]; rfl
  | refused reason => cases reason <;> rfl
  | launchFailed | passedOver => rfl
  | launched directory file =>
    unfold launchEffects
    cases surroundings.sendFailure (.start directory file) <;> rfl
  | stopped run active =>
    simp only [stop, active]
    cases surroundings.sendFailure .stop <;> rfl
  | invalidated run active =>
    simp only [invalidate, active]
    cases surroundings.sendFailure .invalidate <;> rfl
  | reported run report => exact onReport_status run report watch
  | lost run event => rw [loss_lastStatus?]; rfl

/-- The status is what observers were told last, and idle before they were told anything. -/
theorem status_told : Kept fun _ past watch => watch.status = (lastStatus? past).getD .idle where
  initial := rfl
  move := by
    intro surroundings attempted past watch more effects after told move
    rw [move.status, lastStatus?_append, told]
    cases lastStatus? effects <;> rfl

/-! ### Idle watches -/

def Launches (effects : List Effect) : Prop :=
  ∃ worker generation directory, Effect.launch worker generation directory ∈ effects

/-- An idle watch stays as idle as it is until something is launched. -/
theorem Move.stays_idle {watch after : Watch} {attempted : Nat} {effects : List Effect}
    (move : Move surroundings watch attempted effects after) (idle : watch.run = none) :
    Launches effects ∧ after.isActive = true ∨ ¬ Launches effects ∧ after.run = none ∧ after.status = watch.status := by
  have nothing (same : after.run = watch.run) (status : after.status = watch.status) :
      ¬ Launches effects ∧ after.run = none ∧ after.status = watch.status := by
    refine ⟨?_, same.trans idle, status⟩
    rintro ⟨worker, generation, directory, member⟩
    obtain ⟨_, _, _, rfl⟩ := move.launch_mem member
    rw [idle] at same
    cases same
  cases move with
  | launched directory file => exact Or.inl ⟨⟨_, _, _, List.mem_cons_self⟩, rfl⟩
  | stopped run active | invalidated run active | reported run report active | lost run event active =>
    rw [idle] at active
    cases active
  | _ => exact Or.inr (nothing rfl rfl)

/-- Only a start moves an idle watch by more than its target. -/
theorem Turn.idle_move (turn : Turn) {watch : Watch} (idle : watch.run = none) :
    turn.perform watch = (watch, []) ∨
      ∃ attempted, Move turn.surroundings watch attempted (turn.perform watch).2 (turn.perform watch).1 := by
  obtain ⟨surroundings, operation⟩ := turn
  cases operation with
  | configure change =>
    have staying : (watch.retarget change).2.2 = false := by simp [retarget, isActive, idle]
    refine Or.inr ⟨0, ?_⟩
    simp only [Turn.perform, configure_staying surroundings staying, retarget_watch]
    exact .retargeted change
  | start => exact Or.inr ⟨1, start_move surroundings idle⟩
  | stop => exact Or.inl (by simp [Turn.perform, stop, idle])
  | invalidate => exact Or.inl (by simp [Turn.perform, invalidate, idle])
  | receive generation event =>
    have stale : ¬ watch.hears generation := by
      rintro ⟨run, active, _⟩
      rw [idle] at active
      cases active
    refine Or.inr ⟨0, ?_⟩
    simp only [Turn.perform, receive_stale stale]
    exact .passedOver generation stale

theorem Turn.stays_idle (turn : Turn) {watch : Watch} (idle : watch.run = none) :
    Launches (turn.perform watch).2 ∧ (turn.perform watch).1.isActive = true ∨
      ¬ Launches (turn.perform watch).2 ∧ (turn.perform watch).1.run = none ∧
        (turn.perform watch).1.status = watch.status := by
  rcases turn.idle_move idle with still | ⟨attempted, move⟩
  · rw [still]
    exact Or.inr ⟨by simp [Launches], idle, rfl⟩
  · exact move.stays_idle idle

theorem play_stays_idle {watch : Watch} (idle : watch.run = none) {turns : List Turn}
    (quiet : ¬ Launches (play watch turns).2) :
    (play watch turns).1.run = none ∧ (play watch turns).1.status = watch.status := by
  induction turns generalizing watch with
  | nil => exact ⟨idle, rfl⟩
  | cons turn later ih =>
    have quiet_first : ¬ Launches (turn.perform watch).2 := fun ⟨worker, generation, directory, member⟩ =>
      quiet ⟨worker, generation, directory, List.mem_append_left _ member⟩
    have quiet_later : ¬ Launches (play (turn.perform watch).1 later).2 := fun ⟨worker, generation, directory, member⟩ =>
      quiet ⟨worker, generation, directory, List.mem_append_right _ member⟩
    rcases turn.stays_idle idle with ⟨launches, _⟩ | ⟨_, still, same⟩
    · exact absurd launches quiet_first
    · obtain ⟨after, status⟩ := ih still quiet_later
      exact ⟨after, status.trans same⟩

/-! ### How a watch becomes idle -/

theorem start_status (surroundings : Surroundings) (watch : Watch) :
    (watch.start surroundings).1.status = watch.status := by
  unfold start
  repeat' split
  all_goals rfl

theorem stop_status (surroundings : Surroundings) {watch : Watch} (active : watch.isActive = true) :
    (watch.stop surroundings).1.status = .idle := by
  unfold stop
  split
  next idle => simp [isActive, idle] at active
  next => rfl

theorem perform_parting {turn : Turn} {watch : Watch} {run : Run} (active : watch.run = some run)
    (parts : turn.parts run.generation = true) : (turn.perform watch).1 = { watch with run := none } := by
  obtain ⟨surroundings, operation⟩ := turn
  cases operation with
  | receive generation event =>
    obtain ⟨same, parting⟩ := (Bool.and_eq_true _ _).mp parts
    cases eq_of_beq same
    simp only [Turn.perform, receive_current active, onEvent_parting run parting]
    rfl
  | _ => cases parts

/-- An active watch that is idle behind a change has stopped its worker and could not start another. -/
theorem configure_idle {change : TargetChange} {watch : Watch} (active : watch.isActive = true)
    (idle : (watch.configure surroundings change).1.run = none) :
    (watch.configure surroundings change).1.status = .idle := by
  have still : (watch.retarget change).1.isActive = true := by rw [retarget_watch]; exact active
  cases decided : (watch.retarget change).2.2 with
  | false =>
    simp only [configure_staying surroundings decided] at idle
    simp [isActive, idle] at still
  | true => simp only [configure_restarting surroundings decided, start_status, stop_status surroundings still]

/-- Only its own worker leaves a watch, and only with an event that parts them. -/
theorem receive_idle {generation : UInt64} {event : WorkerEvent} {watch : Watch} {run : Run} (held : watch.run = some run)
    (idle : (watch.receive generation event).1.run = none) : generation = run.generation ∧ isParting event = true := by
  by_cases heard : watch.hears generation
  · obtain ⟨current, present, rfl⟩ := heard
    cases held.symm.trans present
    refine ⟨rfl, ?_⟩
    cases event with
    | reported report =>
      simp only [receive_current held, onEvent, onReport_run, held] at idle
      cases idle
    | _ => rfl
  · simp only [receive_stale heard, held] at idle
    cases idle

/-- A turn that leaves a watch idle has stopped its worker, which sets the status back, or has lost it, which does not,
unless there was none before. -/
theorem Turn.leaves_idle {turn : Turn} {watch : Watch} (idle : (turn.perform watch).1.run = none) :
    (turn.perform watch).1.status = .idle ∨
      (turn.perform watch).1.status = watch.status ∧
        (watch.run = none ∧ ¬ Launches (turn.perform watch).2 ∨
          ∃ run, watch.run = some run ∧ turn.parts run.generation = true) := by
  cases held : watch.run with
  | none =>
    rcases turn.stays_idle held with ⟨_, active⟩ | ⟨quiet, _, same⟩
    · simp [isActive, idle] at active
    · exact Or.inr ⟨same, Or.inl ⟨rfl, quiet⟩⟩
  | some run =>
    have active : watch.isActive = true := by simp [isActive, held]
    obtain ⟨surroundings, operation⟩ := turn
    cases operation with
    | configure change => exact Or.inl (configure_idle active idle)
    | start =>
      simp only [Turn.perform, start, active, if_true, held] at idle
      cases idle
    | stop => exact Or.inl (stop_status surroundings active)
    | invalidate =>
      simp only [Turn.perform, invalidate, held] at idle
      cases idle
    | receive generation event =>
      obtain ⟨rfl, parting⟩ := receive_idle held idle
      have parts : Turn.parts run.generation ⟨surroundings, .receive run.generation event⟩ = true := by
        simp [Turn.parts, parting]
      refine Or.inr ⟨?_, Or.inr ⟨run, rfl, parts⟩⟩
      rw [perform_parting held parts]

/-! ### Builds that outlive their workers -/

/-- A run in which the last worker was lost in the midst of a build. -/
def LostBuilding (turns : List Turn) (percent : UInt8) : Prop :=
  ∃ before turn later run, turns = before ++ turn :: later ∧
    (play {} before).1.run = some run ∧ (play {} before).1.status = .running percent ∧
    turn.parts run.generation = true ∧ ¬ Launches (play (turn.perform (play {} before).1).1 later).2

theorem LostBuilding.shows {turns : List Turn} {percent : UInt8} (lost : LostBuilding turns percent) :
    (play {} turns).1.run = none ∧ (play {} turns).1.status = .running percent := by
  obtain ⟨before, turn, later, run, rfl, active, building, parts, quiet⟩ := lost
  have gone := perform_parting active parts
  have idle : (turn.perform (play {} before).1).1.run = none := by rw [gone]
  obtain ⟨still, same⟩ := play_stays_idle idle quiet
  rw [play_append]
  refine ⟨still, same.trans ?_⟩
  rw [gone]
  exact building

theorem play_snoc (watch : Watch) (turns : List Turn) (turn : Turn) :
    play watch (turns ++ [turn]) =
      ((turn.perform (play watch turns).1).1, (play watch turns).2 ++ (turn.perform (play watch turns).1).2) := by
  simp only [play_append, play, List.append_nil]

theorem lostBuilding_of_shows {turns : List Turn} {percent : UInt8} (idle : (play {} turns).1.run = none)
    (building : (play {} turns).1.status = .running percent) : LostBuilding turns percent := by
  induction turns using List.reverseRecOn with
  | nil => cases building
  | append_singleton front turn ih =>
    rw [play_snoc] at idle building
    rcases Turn.leaves_idle idle with stopped | ⟨same, ⟨before, quiet⟩ | ⟨run, active, parts⟩⟩
    · rw [stopped] at building
      cases building
    · obtain ⟨earlier, loss, later, run, rfl, active, shown, parts, silent⟩ := ih before (same.symm.trans building)
      refine ⟨earlier, loss, later ++ [turn], run, by simp, active, shown, parts, ?_⟩
      rw [play_snoc]
      rintro ⟨worker, generation, directory, member⟩
      rcases List.mem_append.mp member with known | new
      · exact silent ⟨worker, generation, directory, known⟩
      · rw [play_append] at quiet
        exact quiet ⟨worker, generation, directory, new⟩
    · exact ⟨front, turn, [], run, rfl, active, same.symm.trans building, parts, by simp [play, Launches]⟩

/-- An idle watch has a build in progress, and has told observers so, exactly if its last worker was lost in the midst of
one: after a stop, before the first launch, and where the lost worker had nothing in progress, it shows none. -/
theorem idle_shows_building_iff_lost (turns : List Turn) (percent : UInt8) :
    ((play {} turns).1.isActive = false ∧ (play {} turns).1.status = .running percent ↔ LostBuilding turns percent) ∧
      ((play {} turns).1.isActive = false ∧ lastStatus? (play {} turns).2 = some (.running percent) ↔
        LostBuilding turns percent) := by
  have shown : (play {} turns).1.isActive = false ∧ (play {} turns).1.status = .running percent ↔
      LostBuilding turns percent := by
    constructor
    · rintro ⟨idle, building⟩
      exact lostBuilding_of_shows (by simpa [isActive] using idle) building
    · intro lost
      exact ⟨by simp [isActive, lost.shows.1], lost.shows.2⟩
  refine ⟨shown, ?_⟩
  rw [← shown, status_told.run turns]
  cases lastStatus? (play {} turns).2 <;> simp

/-- A worker crashes halfway through a build. Nobody is there any more, and the build goes on. -/
theorem crash_leaves_build_running :
    let turns : List Turn := [⟨calm, .configure ⟨.set ⟨"/p"⟩, .set ⟨"w.js"⟩⟩⟩, ⟨calm, .start⟩,
      ⟨calm, .receive 0 (.reported (.progress 50 false))⟩, ⟨calm, .receive 0 (.exited (some 1))⟩]
    (play {} turns).1.isActive = false ∧ (play {} turns).1.status = .running 50 ∧
      lastStatus? (play {} turns).2 = some (.running 50) :=
  ⟨rfl, rfl, rfl⟩

end BuildWatch.Watch
