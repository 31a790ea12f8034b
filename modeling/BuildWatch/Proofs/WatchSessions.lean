import BuildWatch.Proofs.WatchMoves

/-! The lives of workers. Whatever a watch is asked and told, and whatever fails on the way, its workers
live one after the other, and each is launched, announced, shut down and taken leave of once. -/

namespace BuildWatch.Watch

/-- The effects that mark a worker's life. A request is asked of a worker whether it arrives or gets lost. -/
inductive Milestone where
  | launched (worker : Nat) (workingDirectory : Path)
  | asked (worker : Nat) (request : Request)
  | enabled
  | shutDown (worker : Nat) (graceMillis : Nat)
  | idle
  | disabled
  deriving DecidableEq

def milestone? : Effect → Option Milestone
  | .launch worker _ workingDirectory => some (.launched worker workingDirectory)
  | .send worker request | .sendFailed worker request => some (.asked worker request)
  | .shutDown worker graceMillis => some (.shutDown worker graceMillis)
  | .activeChanged true => some .enabled
  | .activeChanged false => some .disabled
  | .statusChanged .idle => some .idle
  | _ => none

def milestones (effects : List Effect) : List Milestone := effects.filterMap milestone?

/-- The life of a worker that is still there. -/
inductive Unfinished (worker : Nat) : List Milestone → Prop where
  | begun (directory file : Path) :
      Unfinished worker [.launched worker directory, .asked worker (.start directory file), .enabled]
  | invalidated {life : List Milestone} (before : Unfinished worker life) :
      Unfinished worker (life ++ [.asked worker .invalidate])

/-- A whole life, which ends with a stop or with a loss. -/
inductive Finished (worker : Nat) : List Milestone → Prop where
  | stopped {life : List Milestone} (before : Unfinished worker life) :
      Finished worker (life ++ [.asked worker .stop, .shutDown worker stopGrace, .idle, .disabled])
  | lost {life : List Milestone} (before : Unfinished worker life) :
      Finished worker (life ++ [.shutDown worker 0, .disabled])

/-- The whole lives of the first workers, in the order of their launches. -/
inductive Lives : Nat → List Milestone → Prop where
  | empty : Lives 0 []
  | next {worker : Nat} {past life : List Milestone} (earlier : Lives worker past) (whole : Finished worker life) :
      Lives (worker + 1) (past ++ life)

/-! ### What a history of lives rules out -/

/-- The worker that is alive, the number of launches, and what observers were told last. -/
structure Presence where
  worker : Option Nat := none
  launches : Nat := 0
  shown : Bool := false
  deriving DecidableEq

/-- A launch needs that nobody is there, a request and a shutdown need their worker to be there, and
observers are told nothing twice. -/
def Presence.after? (presence : Presence) : Milestone → Option Presence
  | .launched worker _ =>
    if presence.worker = none ∧ worker = presence.launches then
      some { presence with worker := some worker, launches := worker + 1 }
    else none
  | .asked worker _ => if presence.worker = some worker then some presence else none
  | .shutDown worker _ => if presence.worker = some worker then some { presence with worker := none } else none
  | .enabled => if presence.shown then none else some { presence with shown := true }
  | .disabled => if presence.shown then some { presence with shown := false } else none
  | .idle => some presence

theorem Unfinished.presence {worker : Nat} {life : List Milestone} (unfinished : Unfinished worker life) :
    life.foldlM Presence.after? ⟨none, worker, false⟩ = some ⟨some worker, worker + 1, true⟩ := by
  induction unfinished with
  | begun directory file => simp [Presence.after?]
  | invalidated _ ih => simp [List.foldlM_append, ih, Presence.after?]

theorem Finished.presence {worker : Nat} {life : List Milestone} (finished : Finished worker life) :
    life.foldlM Presence.after? ⟨none, worker, false⟩ = some ⟨none, worker + 1, false⟩ := by
  cases finished with
  | stopped before => simp [List.foldlM_append, before.presence, Presence.after?]
  | lost before => simp [List.foldlM_append, before.presence, Presence.after?]

theorem Lives.presence {count : Nat} {history : List Milestone} (lives : Lives count history) :
    history.foldlM Presence.after? {} = some ⟨none, count, false⟩ := by
  induction lives with
  | empty => rfl
  | next _ whole ih => simp [List.foldlM_append, ih, whole.presence]

/-! ### The milestones of the moves -/

theorem milestones_append (first second : List Effect) :
    milestones (first ++ second) = milestones first ++ milestones second :=
  List.filterMap_append

theorem milestones_display {effects : List Effect} (display : ∀ effect ∈ effects, isDisplay effect = true) :
    milestones effects = [] := by
  apply List.filterMap_eq_nil_iff.mpr
  intro effect member
  have shown := display effect member
  cases effect with
  | statusChanged status =>
    cases status with
    | idle => cases shown
    | _ => rfl
  | launch | send | sendFailed | shutDown | activeChanged => cases shown
  | _ => rfl

theorem milestones_launchEffects (surroundings : Surroundings) (watch : Watch) (directory file : Path) :
    milestones (launchEffects surroundings watch directory file) =
      [.launched watch.launches directory, .asked watch.launches (.start directory file), .enabled] := by
  unfold launchEffects
  cases surroundings.sendFailure (.start directory file) <;> rfl

theorem milestones_stop (surroundings : Surroundings) {watch : Watch} {run : Run}
    (active : watch.run = some run) :
    milestones (watch.stop surroundings).2 =
      [.asked run.worker .stop, .shutDown run.worker stopGrace, .idle, .disabled] := by
  simp only [stop, active]
  cases surroundings.sendFailure .stop <;> rfl

private theorem milestones_invalidate (surroundings : Surroundings) {watch : Watch} {run : Run}
    (active : watch.run = some run) :
    milestones (watch.invalidate surroundings).2 = [.asked run.worker .invalidate] := by
  simp only [invalidate, active]
  cases surroundings.sendFailure .invalidate <;> rfl

private theorem milestones_loss (event : WorkerEvent) (run : Run) (watch : Watch) :
    milestones (lossEffects event ++ (watch.abandon run).2) = [.shutDown run.worker 0, .disabled] := by
  rw [milestones_append, milestones_display fun _ member => lossEffects_display member]
  rfl

/-! ### Runs -/

/-- All workers but the active one have lived their lives. -/
def Standing (watch : Watch) (history : List Milestone) : Prop :=
  match watch.run with
  | none => Lives watch.launches history
  | some run => watch.launches = run.worker + 1 ∧
      ∃ past current, history = past ++ current ∧ Lives run.worker past ∧ Unfinished run.worker current

private theorem Standing.finish {watch after : Watch} {run : Run} {history ending : List Milestone}
    (standing : Standing watch history) (active : watch.run = some run)
    (whole : ∀ life, Unfinished run.worker life → Finished run.worker (life ++ ending))
    (idle : after.run = none) (launches : after.launches = watch.launches) : Standing after (history ++ ending) := by
  unfold Standing at standing ⊢
  rw [active] at standing
  rw [idle, launches]
  obtain ⟨count, past, current, rfl, lives, unfinished⟩ := standing
  rw [count, List.append_assoc]
  exact .next lives (whole current unfinished)

theorem standing_kept : Kept fun _ past watch => Standing watch (milestones past) where
  initial := Lives.empty
  move := by
    intro surroundings attempted past watch more effects after standing move
    rw [milestones_append]
    have quiet (display : ∀ effect ∈ effects, isDisplay effect = true) (run : after.run = watch.run)
        (launches : after.launches = watch.launches) : Standing after (milestones past ++ milestones effects) := by
      rw [milestones_display display, List.append_nil]
      unfold Standing
      rw [run, launches]
      exact standing
    cases move with
    | retargeted change => exact quiet (fun _ member => retarget_display member) rfl rfl
    | refused reason => exact quiet (List.forall_mem_singleton.mpr (refusal_display reason)) rfl rfl
    | launchFailed directory file reason =>
      exact quiet (List.forall_mem_cons.mpr ⟨rfl, List.forall_mem_singleton.mpr rfl⟩) rfl rfl
    | launched directory file idle =>
      rw [milestones_launchEffects]
      unfold Standing at standing
      rw [idle] at standing
      exact ⟨rfl, _, _, rfl, standing, .begun directory file⟩
    | stopped run active =>
      rw [milestones_stop surroundings active]
      exact standing.finish active (fun _ before => .stopped before) rfl rfl
    | invalidated run active =>
      rw [milestones_invalidate surroundings active]
      unfold Standing at standing ⊢
      rw [active] at standing ⊢
      obtain ⟨count, earlier, current, shape, lives, unfinished⟩ := standing
      exact ⟨count, earlier, _, by rw [shape, List.append_assoc], lives, .invalidated unfinished⟩
    | passedOver generation => exact quiet (List.forall_mem_singleton.mpr rfl) rfl rfl
    | reported run report =>
      exact quiet (fun _ member => onReport_display member) (onReport_run run report watch)
        (onReport_launches run report watch)
    | lost run event active =>
      rw [milestones_loss]
      exact standing.finish active (fun _ before => .lost before) rfl rfl

/-- The history of a run is made of whole lives, and of an unfinished one just while the watch is active.
Read from its beginning, it never launches a worker beside another one, never asks or shuts down a worker
that is not there, and tells observers of both in turn. -/
theorem lives_follow_one_another (turns : List Turn) :
    ∃ count past current,
      milestones (play {} turns).2 = past ++ current ∧
      Lives count past ∧
      ((play {} turns).1.isActive = true ∧ Unfinished count current ∨
        (play {} turns).1.isActive = false ∧ current = []) ∧
      (milestones (play {} turns).2).foldlM Presence.after? {} =
        some ⟨(play {} turns).1.run.map Run.worker, (play {} turns).1.launches, (play {} turns).1.isActive⟩ := by
  have standing := standing_kept.run turns
  unfold Standing at standing
  cases held : (play {} turns).1.run with
  | none =>
    rw [held] at standing
    refine ⟨_, _, [], (List.append_nil _).symm, standing, Or.inr ⟨by simp [isActive, held], rfl⟩, ?_⟩
    simp [standing.presence, isActive, held]
  | some run =>
    rw [held] at standing
    obtain ⟨count, past, current, shape, lives, unfinished⟩ := standing
    refine ⟨run.worker, past, current, shape, lives, Or.inl ⟨by simp [isActive, held], unfinished⟩, ?_⟩
    rw [shape, List.foldlM_append, lives.presence]
    simp [unfinished.presence, isActive, held, count]

end BuildWatch.Watch
