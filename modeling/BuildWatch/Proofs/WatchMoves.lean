import BuildWatch.Watch

/-! Runs of a watch. An operation is a chain of moves, and a move says everything that can happen to a
watch in one go, so an invariant of all runs only has to be kept by the moves. -/

namespace BuildWatch.Watch

inductive Operation where
  | configure (change : TargetChange)
  | start
  | stop
  | invalidate
  | receive (generation : UInt64) (event : WorkerEvent)

/-- An operation with the surroundings it finds. Files, launches and requests may fail differently every time. -/
structure Turn where
  surroundings : Surroundings
  operation : Operation

/-- Surroundings in which nothing fails. -/
def calm : Surroundings := ⟨fun _ => true, fun _ => none, fun _ => none⟩

def Turn.perform (turn : Turn) (watch : Watch) : Watch × List Effect :=
  match turn.operation with
  | .configure change => watch.configure turn.surroundings change
  | .start => watch.start turn.surroundings
  | .stop => watch.stop turn.surroundings
  | .invalidate => watch.invalidate turn.surroundings
  | .receive generation event => watch.receive generation event

/-- A start is attempted when an idle watch is asked to start, and when a changed target calls for a restart. -/
def Turn.attempts (turn : Turn) (watch : Watch) : Nat :=
  match turn.operation with
  | .configure change => if (watch.retarget change).2.2 then 1 else 0
  | .start => if watch.isActive then 0 else 1
  | _ => 0

/-- The watch after some turns, and all effects on the way. -/
def play (watch : Watch) : List Turn → Watch × List Effect
  | [] => (watch, [])
  | turn :: later =>
    let rest := play (turn.perform watch).1 later
    (rest.1, (turn.perform watch).2 ++ rest.2)

def attempts (watch : Watch) : List Turn → Nat
  | [] => 0
  | turn :: later => turn.attempts watch + attempts (turn.perform watch).1 later

theorem play_append (watch : Watch) (earlier later : List Turn) :
    play watch (earlier ++ later) =
      ((play (play watch earlier).1 later).1, (play watch earlier).2 ++ (play (play watch earlier).1 later).2) := by
  induction earlier generalizing watch with
  | nil => rfl
  | cons turn earlier ih => simp [play, ih]

theorem attempts_append (watch : Watch) (earlier later : List Turn) :
    attempts watch (earlier ++ later) = attempts watch earlier + attempts (play watch earlier).1 later := by
  induction earlier generalizing watch with
  | nil => simp [attempts, play]
  | cons turn earlier ih => simp [attempts, play, ih, Nat.add_assoc]

/-- What is said about a worker that is gone. -/
def lossEffects : WorkerEvent → List Effect
  | .reported _ => []
  | .exited code => crashEffects code
  | .failed reason => [.alert s!"webpack error: '{reason}'"]
  | .violated detail =>
    [.note (.of .error s!"protocol violation from worker: {detail}"),
      .alert s!"webpack worker sent an unknown message: {detail}"]

/-- Whether a worker has nothing more to say after an event. -/
def isParting : WorkerEvent → Bool
  | .reported _ => false
  | _ => true

theorem onEvent_parting (run : Run) {event : WorkerEvent} (parting : isParting event = true) (watch : Watch) :
    watch.onEvent run event = ((watch.abandon run).1, lossEffects event ++ (watch.abandon run).2) := by
  cases event with
  | reported report => cases parting
  | exited code => rfl
  | failed reason => rfl
  | violated detail => rfl

/-- Whether an event of a generation comes from the present worker. -/
def hears (watch : Watch) (generation : UInt64) : Prop := ∃ run, watch.run = some run ∧ run.generation = generation

theorem receive_current {watch : Watch} {run : Run} (active : watch.run = some run) (event : WorkerEvent) :
    watch.receive run.generation event = watch.onEvent run event := by
  simp [receive, active]

theorem receive_stale {watch : Watch} {generation : UInt64} (stale : ¬ watch.hears generation) (event : WorkerEvent) :
    watch.receive generation event = (watch, [staleNote generation]) := by
  cases active : watch.run with
  | none => simp [receive, active]
  | some run =>
    have other : run.generation ≠ generation := fun same => stale ⟨run, active, same⟩
    simp [receive, active, other]

/-- What a watch shows and says without a worker coming, going or being asked anything. -/
def isDisplay : Effect → Bool
  | .launch .. | .send .. | .sendFailed .. | .shutDown .. | .activeChanged _ | .statusChanged .idle => false
  | _ => true

private theorem problemEffects_display {severity : Severity} {root : Path} {problem : String} {effect : Effect}
    (member : effect ∈ problemEffects severity root problem) : isDisplay effect = true := by
  unfold problemEffects at member
  rcases List.mem_cons.mp member with rfl | member
  · rfl
  · split at member
    next => cases member
    next => cases List.mem_singleton.mp member; rfl

theorem onReport_run (run : Run) (report : Report) (watch : Watch) : (watch.onReport run report).1.run = watch.run := by
  cases report <;> rfl

theorem onReport_launches (run : Run) (report : Report) (watch : Watch) :
    (watch.onReport run report).1.launches = watch.launches := by
  cases report <;> rfl

/-- A report is only shown. -/
theorem onReport_display {run : Run} {report : Report} {watch : Watch} {effect : Effect}
    (member : effect ∈ (watch.onReport run report).2) : isDisplay effect = true := by
  cases report with
  | log items | logError items | progress percent done =>
    cases List.mem_singleton.mp member
    rfl
  | failure error =>
    simp only [onReport, withStatus, List.mem_append, List.mem_cons, List.not_mem_nil, or_false] at member
    rcases member with (rfl | rfl) | rfl <;> rfl
  | finished outcome =>
    simp only [onReport, outcomeEffects, withStatus, List.mem_append, List.mem_cons, List.mem_flatMap, List.mem_map,
      List.not_mem_nil, or_false] at member
    rcases member with ((((rfl | rfl) | ⟨problem, _, inside⟩) | ⟨problem, _, inside⟩) | ⟨entry, _, rfl⟩) | rfl
    · rfl
    · rfl
    · exact problemEffects_display inside
    · exact problemEffects_display inside
    · rfl
    · cases outcome.isClean <;> rfl

theorem retarget_display {change : TargetChange} {watch : Watch} {effect : Effect}
    (member : effect ∈ (watch.retarget change).2.1) : isDisplay effect = true := by
  simp only [retarget] at member
  split at member
  · simp only [List.mem_cons, List.not_mem_nil, or_false] at member
    rcases member with rfl | rfl <;> rfl
  · cases List.mem_singleton.mp member
    rfl

theorem lossEffects_display {event : WorkerEvent} {effect : Effect} (member : effect ∈ lossEffects event) :
    isDisplay effect = true := by
  cases event with
  | reported report => cases member
  | exited code =>
    simp only [lossEffects, crashEffects] at member
    split at member
    · cases member
    · cases List.mem_singleton.mp member
      rfl
  | failed reason =>
    cases List.mem_singleton.mp member
    rfl
  | violated detail =>
    simp only [lossEffects, List.mem_cons, List.not_mem_nil, or_false] at member
    rcases member with rfl | rfl <;> rfl

theorem refusal_display (reason : StartError) : isDisplay (refusal reason) = true := by
  cases reason <;> rfl

def launchEffects (surroundings : Surroundings) (watch : Watch) (directory file : Path) : List Effect :=
  [.launch watch.launches watch.nextGeneration directory,
      delivery watch.launches (.start directory file) (surroundings.sendFailure (.start directory file))] ++
    lossNote .warn "start message not delivered" (surroundings.sendFailure (.start directory file)) ++
    [.note (.of .info "build worker started" [("dir", directory.text), ("generation", toString watch.nextGeneration)]),
      .activeChanged true]

/-- One thing that happens to a watch, with the starts it attempts and its effects. -/
inductive Move (surroundings : Surroundings) : Watch → Nat → List Effect → Watch → Prop where
  | retargeted {watch : Watch} (change : TargetChange) :
      Move surroundings watch 0 (watch.retarget change).2.1 { watch with target := watch.target.change change }
  | refused {watch : Watch} (reason : StartError) (idle : watch.run = none)
      (refusal : watch.preconditions surroundings.pathExists = .error reason) :
      Move surroundings watch 1 [Watch.refusal reason] watch
  | launchFailed {watch : Watch} (directory file : Path) (reason : String) (idle : watch.run = none)
      (ready : watch.preconditions surroundings.pathExists = .ok (directory, file))
      (failure : surroundings.launchFailure directory = some reason) :
      Move surroundings watch 1
        [.note (.of .error s!"worker launch failed: {reason}"), .alert s!"webpack error: '{reason}'"]
        { watch with nextGeneration := watch.nextGeneration + 1 }
  | launched {watch : Watch} (directory file : Path) (idle : watch.run = none)
      (ready : watch.preconditions surroundings.pathExists = .ok (directory, file))
      (success : surroundings.launchFailure directory = none) :
      Move surroundings watch 1 (launchEffects surroundings watch directory file)
        { watch with
          run := some ⟨watch.launches, watch.nextGeneration, directory⟩
          nextGeneration := watch.nextGeneration + 1
          launches := watch.launches + 1 }
  | stopped {watch : Watch} (run : Run) (active : watch.run = some run) :
      Move surroundings watch 0 (watch.stop surroundings).2 { watch with run := none, status := .idle }
  | invalidated {watch : Watch} (run : Run) (active : watch.run = some run) :
      Move surroundings watch 0 (watch.invalidate surroundings).2 watch
  | passedOver {watch : Watch} (generation : UInt64) (stale : ¬ watch.hears generation) :
      Move surroundings watch 0 [staleNote generation] watch
  | reported {watch : Watch} (run : Run) (report : Report) (active : watch.run = some run) :
      Move surroundings watch 0 (watch.onReport run report).2 (watch.onReport run report).1
  | lost {watch : Watch} (run : Run) (event : WorkerEvent) (active : watch.run = some run)
      (parting : isParting event = true) :
      Move surroundings watch 0 (lossEffects event ++ (watch.abandon run).2) { watch with run := none }

namespace Move
variable {surroundings : Surroundings} {watch after : Watch} {attempted : Nat} {effects : List Effect}

/-- Only a launch launches, and what it launches is the run from then on. -/
theorem launch_mem (move : Move surroundings watch attempted effects after) {worker : Nat} {generation : UInt64}
    {directory : Path} (member : Effect.launch worker generation directory ∈ effects) :
    attempted = 1 ∧ worker = watch.launches ∧ generation = watch.nextGeneration ∧
      after = { watch with
        run := some ⟨worker, generation, directory⟩
        nextGeneration := generation + 1
        launches := worker + 1 } := by
  cases move with
  | retargeted change => cases retarget_display member
  | refused reason => cases (List.mem_singleton.mp member).symm ▸ refusal_display reason
  | launchFailed | passedOver => simp [staleNote] at member
  | launched directory' file idle =>
    unfold launchEffects at member
    cases lost : surroundings.sendFailure (.start directory' file) <;>
      simp only [lost, delivery, lossNote, List.append_nil, List.cons_append, List.nil_append, List.mem_cons,
        Effect.launch.injEq, reduceCtorEq, List.not_mem_nil, or_false] at member
    all_goals
      obtain ⟨rfl, rfl, rfl⟩ := member
      exact ⟨rfl, rfl, rfl, rfl⟩
  | stopped run active =>
    simp only [stop, active] at member
    cases lost : surroundings.sendFailure .stop <;> simp [lost, delivery, lossNote] at member
  | invalidated run active =>
    simp only [invalidate, active] at member
    cases lost : surroundings.sendFailure .invalidate <;> simp [lost, delivery, lossNote] at member
  | reported run report => cases onReport_display member
  | lost run event =>
    rcases List.mem_append.mp member with said | left
    · cases lossEffects_display said
    · simp [abandon] at left

/-- Only the present worker is shut down, and then nobody is there. -/
theorem shutDown_mem (move : Move surroundings watch attempted effects after) {worker graceMillis : Nat}
    (member : Effect.shutDown worker graceMillis ∈ effects) :
    (∃ run, watch.run = some run ∧ worker = run.worker) ∧ after.run = none := by
  cases move with
  | retargeted change => cases retarget_display member
  | refused reason => cases (List.mem_singleton.mp member).symm ▸ refusal_display reason
  | launchFailed | passedOver => simp [staleNote] at member
  | launched directory file =>
    unfold launchEffects at member
    cases lost : surroundings.sendFailure (.start directory file) <;> simp [lost, delivery, lossNote] at member
  | stopped run active =>
    simp only [stop, active] at member
    cases lost : surroundings.sendFailure .stop <;> simp [lost, delivery, lossNote] at member <;>
      exact ⟨⟨run, active, member.1⟩, rfl⟩
  | invalidated run active =>
    simp only [invalidate, active] at member
    cases lost : surroundings.sendFailure .invalidate <;> simp [lost, delivery, lossNote] at member
  | reported run report => cases onReport_display member
  | lost run event active =>
    rcases List.mem_append.mp member with said | left
    · cases lossEffects_display said
    · simp only [abandon, List.mem_cons, Effect.shutDown.injEq, reduceCtorEq, List.not_mem_nil, or_false] at left
      exact ⟨⟨run, active, left.1⟩, rfl⟩

/-- A run goes on, ends or is launched. -/
theorem run_cases (move : Move surroundings watch attempted effects after) :
    after.run = watch.run ∧ after.launches = watch.launches ∨ after.run = none ∧ after.launches = watch.launches ∨
      ∃ directory, after.run = some ⟨watch.launches, watch.nextGeneration, directory⟩ ∧
        after.launches = watch.launches + 1 ∧ Effect.launch watch.launches watch.nextGeneration directory ∈ effects := by
  cases move with
  | launched directory => exact Or.inr (Or.inr ⟨directory, rfl, rfl, List.mem_cons_self⟩)
  | stopped | lost => exact Or.inr (Or.inl ⟨rfl, rfl⟩)
  | reported run report => exact Or.inl ⟨onReport_run run report watch, onReport_launches run report watch⟩
  | _ => exact Or.inl ⟨rfl, rfl⟩

/-- A generation is used up by an attempt to start, and by nothing else. -/
theorem nextGeneration_cases (move : Move surroundings watch attempted effects after) :
    after.nextGeneration = watch.nextGeneration ∨
      attempted = 1 ∧ after.nextGeneration = watch.nextGeneration + 1 := by
  cases move with
  | launched | launchFailed => exact Or.inr ⟨rfl, rfl⟩
  | reported run report => cases report <;> exact Or.inl rfl
  | _ => exact Or.inl rfl

end Move

inductive Moves (surroundings : Surroundings) : Watch → Nat → List Effect → Watch → Prop where
  | none {watch : Watch} : Moves surroundings watch 0 [] watch
  | next {first middle last : Watch} {attempted more : Nat} {effects later : List Effect}
      (move : Move surroundings first attempted effects middle) (rest : Moves surroundings middle more later last) :
      Moves surroundings first (attempted + more) (effects ++ later) last

variable {surroundings : Surroundings}

theorem Moves.single {first last : Watch} {attempted : Nat} {effects : List Effect}
    (move : Move surroundings first attempted effects last) : Moves surroundings first attempted effects last := by
  simpa using Moves.next move .none

theorem Moves.append {first middle last : Watch} {attempted more : Nat} {effects later : List Effect}
    (moves : Moves surroundings first attempted effects middle) (rest : Moves surroundings middle more later last) :
    Moves surroundings first (attempted + more) (effects ++ later) last := by
  induction moves with
  | none => simpa using rest
  | next move _ ih =>
    rw [Nat.add_assoc, List.append_assoc]
    exact .next move (ih rest)

theorem retarget_watch (change : TargetChange) (watch : Watch) :
    (watch.retarget change).1 = { watch with target := watch.target.change change } := by
  simp only [retarget]
  split <;> rfl

theorem configure_staying {change : TargetChange} {watch : Watch} (surroundings : Surroundings)
    (staying : (watch.retarget change).2.2 = false) :
    watch.configure surroundings change = ((watch.retarget change).1, (watch.retarget change).2.1) := by
  rcases decided : watch.retarget change with ⟨changed, effects, restart⟩
  rw [decided] at staying
  subst staying
  simp [configure, decided]

theorem configure_restarting {change : TargetChange} {watch : Watch} (surroundings : Surroundings)
    (restarting : (watch.retarget change).2.2 = true) :
    watch.configure surroundings change =
      ((((watch.retarget change).1.stop surroundings).1.start surroundings).1,
        (watch.retarget change).2.1 ++ ((watch.retarget change).1.stop surroundings).2 ++
          (((watch.retarget change).1.stop surroundings).1.start surroundings).2) := by
  rcases decided : watch.retarget change with ⟨changed, effects, restart⟩
  rw [decided] at restarting
  subst restarting
  simp [configure, decided]

theorem start_move (surroundings : Surroundings) {watch : Watch} (idle : watch.run = none) :
    Move surroundings watch 1 (watch.start surroundings).2 (watch.start surroundings).1 := by
  unfold start
  rw [if_neg (by simp [isActive, idle])]
  split
  next reason refusal => exact .refused reason idle refusal
  next directory file ready =>
    split
    next reason failure => exact .launchFailed directory file reason idle ready failure
    next success => exact .launched directory file idle ready success

theorem stop_moves (surroundings : Surroundings) (watch : Watch) :
    Moves surroundings watch 0 (watch.stop surroundings).2 (watch.stop surroundings).1 := by
  cases active : watch.run with
  | none => simpa [stop, active] using Moves.none
  | some run =>
    have after : (watch.stop surroundings).1 = { watch with run := none, status := .idle } := by simp [stop, active]
    rw [after]
    exact .single (.stopped run active)

theorem stop_idle (surroundings : Surroundings) (watch : Watch) : (watch.stop surroundings).1.run = none := by
  cases active : watch.run <;> simp [stop, active]

theorem receive_moves (surroundings : Surroundings) (generation : UInt64) (event : WorkerEvent) (watch : Watch) :
    Moves surroundings watch 0 (watch.receive generation event).2 (watch.receive generation event).1 := by
  by_cases heard : watch.hears generation
  · obtain ⟨run, active, rfl⟩ := heard
    rw [receive_current active]
    cases parting : isParting event with
    | true =>
      rw [onEvent_parting run parting]
      exact .single (.lost run event active parting)
    | false =>
      cases event with
      | reported report => exact .single (.reported run report active)
      | _ => cases parting
  · rw [receive_stale heard]
    exact .single (.passedOver generation heard)

/-- An operation does nothing but moves. -/
theorem Turn.perform_moves (turn : Turn) (watch : Watch) :
    Moves turn.surroundings watch (turn.attempts watch) (turn.perform watch).2 (turn.perform watch).1 := by
  obtain ⟨surroundings, operation⟩ := turn
  cases operation with
  | configure change =>
    have first : Moves surroundings watch 0 (watch.retarget change).2.1 (watch.retarget change).1 := by
      rw [retarget_watch]
      exact .single (.retargeted change)
    simp only [Turn.perform, Turn.attempts]
    cases decided : (watch.retarget change).2.2 with
    | false => simpa [configure_staying surroundings decided] using first
    | true =>
      have stopped := stop_moves surroundings (watch.retarget change).1
      have started := Moves.single (start_move surroundings (stop_idle surroundings (watch.retarget change).1))
      simpa [configure_restarting surroundings decided] using first.append (stopped.append started)
  | start =>
    cases idle : watch.run with
    | none => simpa [Turn.perform, Turn.attempts, isActive, idle] using Moves.single (start_move surroundings idle)
    | some run => simpa [Turn.perform, Turn.attempts, start, isActive, idle] using Moves.none
  | stop => exact stop_moves surroundings watch
  | invalidate =>
    cases active : watch.run with
    | none => simpa [Turn.perform, Turn.attempts, invalidate, active] using Moves.none
    | some run =>
      have after : (watch.invalidate surroundings).1 = watch := by simp [invalidate, active]
      simp only [Turn.perform, Turn.attempts, after]
      exact .single (.invalidated run active)
  | receive generation event => exact receive_moves surroundings generation event watch

/-- A property of the starts attempted so far, of all effects so far and of the watch after them, which
holds in the beginning and is kept by every move. -/
structure Kept (invariant : Nat → List Effect → Watch → Prop) : Prop where
  initial : invariant 0 [] {}
  move : ∀ {surroundings attempted past watch more effects after}, invariant attempted past watch →
    Move surroundings watch more effects after → invariant (attempted + more) (past ++ effects) after

namespace Kept
variable {invariant : Nat → List Effect → Watch → Prop} (kept : Kept invariant)
include kept

theorem moves {attempted more : Nat} {past effects : List Effect} {watch after : Watch}
    (holds : invariant attempted past watch) (moves : Moves surroundings watch more effects after) :
    invariant (attempted + more) (past ++ effects) after := by
  induction moves generalizing attempted past with
  | none => simpa using holds
  | next move _ ih => simpa [Nat.add_assoc] using ih (kept.move holds move)

theorem perform (attempted : Nat) {past : List Effect} {watch : Watch} (holds : invariant attempted past watch)
    (turn : Turn) :
    invariant (attempted + turn.attempts watch) (past ++ (turn.perform watch).2) (turn.perform watch).1 :=
  kept.moves holds (turn.perform_moves watch)

theorem continued {attempted : Nat} {past : List Effect} {watch : Watch} (holds : invariant attempted past watch)
    (turns : List Turn) :
    invariant (attempted + attempts watch turns) (past ++ (play watch turns).2) (play watch turns).1 := by
  induction turns generalizing attempted past watch with
  | nil => simpa [attempts, play] using holds
  | cons turn later ih => simpa [attempts, play, Nat.add_assoc] using ih (kept.perform _ holds turn)

/-- What the moves keep holds after every run. -/
theorem run (turns : List Turn) : invariant (attempts {} turns) (play {} turns).2 (play {} turns).1 := by
  simpa using kept.continued kept.initial turns

end Kept

/-- The run of an active watch is the one its worker was launched with. -/
def Launched (past : List Effect) (watch : Watch) : Prop :=
  ∀ run, watch.run = some run → .launch run.worker run.generation run.workingDirectory ∈ past

theorem Launched.move {past effects : List Effect} {watch after : Watch} {attempted : Nat}
    (launched : Launched past watch) (move : Move surroundings watch attempted effects after) : Launched (past ++ effects) after := by
  intro run active
  rcases move.run_cases with ⟨same, _⟩ | ⟨idle, _⟩ | ⟨directory, new, _, member⟩
  · exact List.mem_append_left _ (launched run (same ▸ active))
  · rw [idle] at active
    cases active
  · cases active.symm.trans new
    exact List.mem_append_right _ member

theorem launched_kept : Kept fun _ past watch => Launched past watch where
  initial := by
    intro run active
    cases active
  move := Launched.move

end BuildWatch.Watch
