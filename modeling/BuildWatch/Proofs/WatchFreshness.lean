import BuildWatch.Proofs.WatchMoves

/-! Events that come too late. Generations are never used twice while they last, so an event of a worker
that has been shut down cannot be taken for one of a later worker, whenever it is handled. -/

namespace BuildWatch.Watch

/-- While generations last, the present worker shares its generation with no other one, and workers that were
shut down are not there any more. -/
structure Fresh (attempted : Nat) (past : List Effect) (watch : Watch) : Prop where
  counted : watch.nextGeneration.toNat ≤ attempted
  launched : ∀ worker generation directory, Effect.launch worker generation directory ∈ past →
    worker < watch.launches ∧ generation.toNat < watch.nextGeneration.toNat
  held : Launched past watch
  unique : ∀ run, watch.run = some run → ∀ worker directory, Effect.launch worker run.generation directory ∈ past →
    worker = run.worker
  gone : ∀ worker graceMillis, Effect.shutDown worker graceMillis ∈ past →
    worker < watch.launches ∧ ∀ run, watch.run = some run → worker ≠ run.worker

private theorem next_toNat {generation : UInt64} (room : generation.toNat + 1 < UInt64.size) :
    (generation + 1).toNat = generation.toNat + 1 := by
  rw [UInt64.toNat_add]
  exact Nat.mod_eq_of_lt room

theorem fresh_kept : Kept fun attempted past watch => attempted < UInt64.size → Fresh attempted past watch where
  initial := fun _ => ⟨Nat.le_refl 0, by simp, launched_kept.initial, by simp, by simp⟩
  move := by
    intro surroundings attempted past watch more effects after keeps move few
    have fresh := keeps (by omega)
    have counted := fresh.counted
    have grown : after.nextGeneration = watch.nextGeneration ∨
        more = 1 ∧ after.nextGeneration.toNat = watch.nextGeneration.toNat + 1 := by
      rcases move.nextGeneration_cases with same | ⟨one, next⟩
      · exact Or.inl same
      · exact Or.inr ⟨one, by rw [next, next_toNat (by omega)]⟩
    have later : watch.nextGeneration.toNat ≤ after.nextGeneration.toNat := by
      rcases grown with same | ⟨_, next⟩
      · exact Nat.le_of_eq (by rw [same])
      · omega
    have more_launches : watch.launches ≤ after.launches := by
      rcases move.run_cases with ⟨_, same⟩ | ⟨_, same⟩ | ⟨_, _, next, _⟩ <;> omega
    refine ⟨?_, ?_, fresh.held.move move, ?_, ?_⟩
    · rcases grown with same | ⟨_, next⟩
      · rw [same]
        omega
      · omega
    · intro worker generation directory member
      rcases List.mem_append.mp member with before | now
      · obtain ⟨known, used⟩ := fresh.launched _ _ _ before
        exact ⟨by omega, by omega⟩
      · obtain ⟨one, rfl, rfl, rfl⟩ := move.launch_mem now
        refine ⟨Nat.lt_succ_self _, ?_⟩
        rw [next_toNat (by omega)]
        exact Nat.lt_succ_self _
    · intro run active worker directory member
      rcases List.mem_append.mp member with before | now
      · rcases move.run_cases with ⟨same, _⟩ | ⟨idle, _⟩ | ⟨_, new, _, _⟩
        · exact fresh.unique run (same ▸ active) worker directory before
        · rw [idle] at active
          cases active
        · cases active.symm.trans new
          -- the new run's generation is above all that were ever used
          have used := (fresh.launched _ _ _ before).2
          exact absurd used (Nat.lt_irrefl _)
      · obtain ⟨_, _, _, rfl⟩ := move.launch_mem now
        exact congrArg Run.worker (Option.some.inj active)
    · intro worker graceMillis member
      rcases List.mem_append.mp member with before | now
      · obtain ⟨known, absent⟩ := fresh.gone _ _ before
        refine ⟨by omega, ?_⟩
        intro run active
        rcases move.run_cases with ⟨same, _⟩ | ⟨idle, _⟩ | ⟨_, new, _, _⟩
        · exact absent run (same ▸ active)
        · rw [idle] at active
          cases active
        · cases active.symm.trans new
          exact Nat.ne_of_lt known
      · obtain ⟨⟨run, active, rfl⟩, idle⟩ := move.shutDown_mem now
        have known := (fresh.launched _ _ _ (fresh.held run active)).1
        exact ⟨by omega, fun current held => by rw [idle] at held; cases held⟩

/-! ### Late events -/

def isShutDownOf (worker : Nat) : Effect → Bool
  | .shutDown gone _ => gone == worker
  | _ => false

/-- Whether the worker of a generation has been launched and shut down again. -/
def ended (past : List Effect) (generation : UInt64) : Bool :=
  past.any fun
    | .launch worker used _ => used == generation && past.any (isShutDownOf worker)
    | _ => false

theorem ended_iff {past : List Effect} {generation : UInt64} :
    ended past generation = true ↔ ∃ worker directory graceMillis,
      .launch worker generation directory ∈ past ∧ .shutDown worker graceMillis ∈ past := by
  unfold ended
  constructor
  · intro found
    obtain ⟨effect, member, shape⟩ := List.any_eq_true.mp found
    split at shape
    next worker used directory =>
      obtain ⟨same, shut⟩ := (Bool.and_eq_true _ _).mp shape
      obtain ⟨gone, inside, matched⟩ := List.any_eq_true.mp shut
      unfold isShutDownOf at matched
      split at matched
      next other graceMillis =>
        cases eq_of_beq same
        cases eq_of_beq matched
        exact ⟨_, directory, graceMillis, member, inside⟩
      next => cases matched
    next => cases shape
  · rintro ⟨worker, directory, graceMillis, launched, shut⟩
    refine List.any_eq_true.mpr ⟨_, launched, ?_⟩
    simp only [beq_self_eq_true, Bool.true_and]
    exact List.any_eq_true.mpr ⟨_, shut, by simp [isShutDownOf]⟩

theorem ended_append {past : List Effect} {generation : UInt64} (finished : ended past generation = true)
    (later : List Effect) : ended (past ++ later) generation = true := by
  obtain ⟨worker, directory, graceMillis, launched, shut⟩ := ended_iff.mp finished
  exact ended_iff.mpr ⟨worker, directory, graceMillis, List.mem_append_left _ launched, List.mem_append_left _ shut⟩

theorem Fresh.not_hears {attempted : Nat} {past : List Effect} {watch : Watch} (fresh : Fresh attempted past watch)
    {generation : UInt64} (finished : ended past generation = true) : ¬ watch.hears generation := by
  rintro ⟨run, active, rfl⟩
  obtain ⟨worker, directory, graceMillis, launched, shut⟩ := ended_iff.mp finished
  exact (fresh.gone worker graceMillis shut).2 run active (fresh.unique run active worker directory launched)

/-- Whether a turn brings an event of a worker that was shut down before. -/
def Turn.isLate (past : List Effect) (turn : Turn) : Bool :=
  match turn.operation with
  | .receive generation _ => ended past generation
  | _ => false

theorem Fresh.late {attempted : Nat} {past : List Effect} {watch : Watch} (fresh : Fresh attempted past watch)
    {turn : Turn} (late : turn.isLate past = true) :
    turn.attempts watch = 0 ∧ ∃ generation, turn.perform watch = (watch, [staleNote generation]) := by
  obtain ⟨surroundings, operation⟩ := turn
  cases operation with
  | receive generation event => exact ⟨rfl, generation, receive_stale (fresh.not_hears late) event⟩
  | _ => cases late

/-- The turns without those that come too late. -/
def withoutLate (past : List Effect) (watch : Watch) : List Turn → List Turn
  | [] => []
  | turn :: later =>
    let rest := withoutLate (past ++ (turn.perform watch).2) (turn.perform watch).1 later
    if turn.isLate past then rest else turn :: rest

/-- All effects but those that are only traced. -/
def noticed (effects : List Effect) : List Effect :=
  effects.filter fun
    | .note record => record.level != .trace
    | _ => true

theorem noticed_append (first second : List Effect) : noticed (first ++ second) = noticed first ++ noticed second :=
  List.filter_append ..

/-- A run is the same without what comes too late in it. -/
theorem play_withoutLate {attempted : Nat} {past : List Effect} {watch : Watch}
    (fresh : attempted < UInt64.size → Fresh attempted past watch) (turns : List Turn)
    (few : attempted + attempts watch turns < UInt64.size) :
    (play watch (withoutLate past watch turns)).1 = (play watch turns).1 ∧
      noticed (play watch (withoutLate past watch turns)).2 = noticed (play watch turns).2 := by
  induction turns generalizing attempted past watch with
  | nil => exact ⟨rfl, rfl⟩
  | cons turn later ih =>
    simp only [attempts] at few
    have next := ih (fresh_kept.perform attempted fresh turn) (by omega)
    simp only [withoutLate]
    cases late : turn.isLate past with
    | false =>
      simp only [Bool.false_eq_true, if_false, play, noticed_append]
      exact ⟨next.1, congrArg _ next.2⟩
    | true =>
      obtain ⟨_, generation, performed⟩ := (fresh (by omega)).late late
      rw [performed] at next
      simp only [if_true, play, performed, noticed_append]
      exact next

/-! ### What the end of a worker sets off -/

def Turn.parts (generation : UInt64) (turn : Turn) : Bool :=
  match turn.operation with
  | .receive other event => other == generation && isParting event
  | _ => false

/-- The effects of all the events by which the worker of a generation is reported to be gone. -/
def partingEffects (generation : UInt64) (watch : Watch) : List Turn → List Effect
  | [] => []
  | turn :: later =>
    (if turn.parts generation then (turn.perform watch).2 else []) ++
      partingEffects generation (turn.perform watch).1 later

def isAlert : Effect → Bool
  | .alert _ => true
  | _ => false

def isLeaving : Effect → Bool
  | .activeChanged false => true
  | _ => false

/-- The end of a worker is told once, and alerts of it once at most. -/
structure Few (effects : List Effect) (most : Nat) : Prop where
  alerts : effects.countP isAlert ≤ most
  leavings : effects.countP isLeaving ≤ most

theorem Few.append {first second : List Effect} {most more : Nat} (few : Few first most) (others : Few second more) :
    Few (first ++ second) (most + more) where
  alerts := by rw [List.countP_append]; exact Nat.add_le_add few.alerts others.alerts
  leavings := by rw [List.countP_append]; exact Nat.add_le_add few.leavings others.leavings

private theorem loss_few (event : WorkerEvent) (run : Run) (watch : Watch) :
    Few (lossEffects event ++ (watch.abandon run).2) 1 := by
  cases event with
  | exited code =>
    simp only [lossEffects, crashEffects]
    split
    next => exact ⟨Nat.zero_le 1, Nat.le_refl 1⟩
    next => exact ⟨Nat.le_refl 1, Nat.le_refl 1⟩
  | reported report => exact ⟨Nat.zero_le 1, Nat.le_refl 1⟩
  | _ => exact ⟨Nat.le_refl 1, Nat.le_refl 1⟩

private theorem parting_cases {turn : Turn} {generation : UInt64} (parts : turn.parts generation = true)
    (watch : Watch) :
    (turn.perform watch).2 = [staleNote generation] ∨
      ∃ run event, watch.run = some run ∧ run.generation = generation ∧ isParting event = true ∧
        (turn.perform watch).2 = lossEffects event ++ (watch.abandon run).2 := by
  obtain ⟨surroundings, operation⟩ := turn
  cases operation with
  | receive other event =>
    obtain ⟨same, parting⟩ := (Bool.and_eq_true _ _).mp parts
    cases eq_of_beq same
    by_cases heard : watch.hears generation
    · obtain ⟨run, active, rfl⟩ := heard
      refine Or.inr ⟨run, event, active, rfl, parting, ?_⟩
      simp only [Turn.perform, receive_current active, onEvent_parting run parting]
    · exact Or.inl (by simp only [Turn.perform, receive_stale heard])
  | _ => cases parts

/-- Nothing is set off for a worker that has ended. -/
theorem Fresh.parting_silent {attempted : Nat} {past : List Effect} {watch : Watch} {generation : UInt64}
    (fresh : attempted < UInt64.size → Fresh attempted past watch) (finished : ended past generation = true)
    (turns : List Turn) (few : attempted + attempts watch turns < UInt64.size) :
    Few (partingEffects generation watch turns) 0 := by
  induction turns generalizing attempted past watch with
  | nil => exact ⟨Nat.le_refl 0, Nat.le_refl 0⟩
  | cons turn later ih =>
    simp only [attempts] at few
    have next := ih (fresh_kept.perform attempted fresh turn) (ended_append finished _) (by omega)
    have first : Few (if turn.parts generation then (turn.perform watch).2 else []) 0 := by
      split
      next parts =>
        rcases parting_cases parts watch with stale | ⟨run, event, active, same, _⟩
        · rw [stale]
          exact ⟨Nat.le_refl 0, Nat.le_refl 0⟩
        · exact absurd ⟨run, active, same⟩ ((fresh (by omega)).not_hears finished)
      next => exact ⟨Nat.le_refl 0, Nat.le_refl 0⟩
    exact first.append next

theorem parting_once {attempted : Nat} {past : List Effect} {watch : Watch} (generation : UInt64)
    (fresh : attempted < UInt64.size → Fresh attempted past watch) (turns : List Turn)
    (few : attempted + attempts watch turns < UInt64.size) : Few (partingEffects generation watch turns) 1 := by
  induction turns generalizing attempted past watch with
  | nil => exact ⟨Nat.zero_le 1, Nat.zero_le 1⟩
  | cons turn later ih =>
    simp only [attempts] at few
    have kept := fresh_kept.perform attempted fresh turn
    have next := ih kept (by omega)
    simp only [partingEffects]
    split
    next parts =>
      rcases parting_cases parts watch with stale | ⟨run, event, active, rfl, parting, lost⟩
      · have none : Few [staleNote generation] 0 := ⟨Nat.le_refl 0, Nat.le_refl 0⟩
        rw [stale]
        simpa using none.append next
      · have finished : ended (past ++ (turn.perform watch).2) run.generation = true := by
          refine ended_iff.mpr ⟨run.worker, run.workingDirectory, 0, ?_, ?_⟩
          · exact List.mem_append_left _ ((fresh (by omega)).held run active)
          · rw [lost]
            simp [abandon]
        have silent := Fresh.parting_silent kept finished later (by omega)
        rw [lost]
        simpa using (loss_few event run watch).append silent
    next => simpa using next

/-- Where fewer starts are attempted than there are generations, an event that is handled after its worker was
shut down leaves nothing behind but a trace record, and everything after it happens as it would have without
the event. So runs that only differ in such events end in the same watch with the same effects, and a worker's
end is told to observers once, with one alert at most, however often it is reported. -/
theorem late_events_change_nothing (turns : List Turn) (few : attempts {} turns < UInt64.size) :
    (∀ before surroundings generation event after worker directory graceMillis,
      turns = before ++ ⟨surroundings, .receive generation event⟩ :: after →
      Effect.launch worker generation directory ∈ (play {} before).2 →
      Effect.shutDown worker graceMillis ∈ (play {} before).2 →
      (play {} turns).1 = (play {} (before ++ after)).1 ∧
        ∃ later, (play {} (before ++ after)).2 = (play {} before).2 ++ later ∧
          (play {} turns).2 = (play {} before).2 ++ staleNote generation :: later) ∧
    (∀ others, attempts {} others < UInt64.size → withoutLate [] {} others = withoutLate [] {} turns →
      (play {} others).1 = (play {} turns).1 ∧ noticed (play {} others).2 = noticed (play {} turns).2) ∧
    ∀ generation, (partingEffects generation {} turns).countP isAlert ≤ 1 ∧
      (partingEffects generation {} turns).countP isLeaving ≤ 1 := by
  refine ⟨?_, ?_, ?_⟩
  · rintro before surroundings generation event after worker directory graceMillis rfl launched shut
    rw [attempts_append] at few
    have fresh := fresh_kept.run before (by omega)
    have finished := ended_iff.mpr ⟨worker, directory, graceMillis, launched, shut⟩
    have dropped : Turn.perform ⟨surroundings, .receive generation event⟩ (play {} before).1 =
        ((play {} before).1, [staleNote generation]) := receive_stale (fresh.not_hears finished) event
    rw [play_append, play_append]
    simp only [play, dropped]
    exact ⟨trivial, _, rfl, rfl⟩
  · intro others fewer same
    obtain ⟨watch, effects⟩ := play_withoutLate fresh_kept.initial turns (by simpa using few)
    obtain ⟨other, noise⟩ := play_withoutLate fresh_kept.initial others (by simpa using fewer)
    rw [same] at other noise
    exact ⟨other.symm.trans watch, noise.symm.trans effects⟩
  · intro generation
    have once := parting_once generation fresh_kept.initial turns (by simpa using few)
    exact ⟨once.alerts, once.leavings⟩

/-- A worker that crashes, and one that takes its place. -/
def replacement : List Turn :=
  [⟨calm, .configure ⟨.set ⟨"/p"⟩, .set ⟨"w.js"⟩⟩⟩, ⟨calm, .start⟩, ⟨calm, .receive 0 (.exited (some 1))⟩,
    ⟨calm, .start⟩]

theorem late_failure_changes_nothing :
    (play {} (replacement ++ ⟨calm, .receive 0 (.failed "late")⟩ :: [⟨calm, .invalidate⟩])).1 =
        (play {} (replacement ++ [⟨calm, .invalidate⟩])).1 ∧
      (partingEffects 0 {} (replacement ++ ⟨calm, .receive 0 (.failed "late")⟩ :: [⟨calm, .invalidate⟩])).countP
        isAlert ≤ 1 := by
  have few : attempts {} (replacement ++ ⟨calm, .receive 0 (.failed "late")⟩ :: [⟨calm, .invalidate⟩]) < UInt64.size := by
    decide
  have finished : ended (play {} replacement).2 0 = true := by decide
  obtain ⟨worker, directory, graceMillis, launched, shut⟩ := ended_iff.mp finished
  obtain ⟨dropped, _, once⟩ := late_events_change_nothing _ few
  exact ⟨(dropped replacement _ _ _ _ _ _ _ rfl launched shut).1, (once 0).1⟩

end BuildWatch.Watch
