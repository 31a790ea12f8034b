import BuildWatch.Proofs.ChildRuns
import BuildWatch.Text.Lines
import Mathlib.Data.Nat.Init
import Mathlib.Tactic.ByContra

/-! The end of a child process. Its monitor makes one report in a life, and a shutdown waits for it. A process is killed
only if it outlives its grace or its holder. If the monitor and the clocks get their turns, the report does come. -/

namespace BuildWatch.Child

/-- What only the monitor says: the exit, or why nobody could wait for it. -/
def IsReport (output : ProcessOutput) : Prop :=
  (∃ code, output = .exited code) ∨ ∃ reason, output = .failed (waitFault reason)

theorem report_isReport (child : Child) : IsReport child.report := by
  unfold report
  split
  next => exact .inl ⟨_, rfl⟩
  next reason _ => exact .inr ⟨reason, rfl⟩

theorem readFault_ne_waitFault (reason other : String) : readFault reason ≠ waitFault other :=
  Text.append_ne_append 11 (by decide) (by decide) (by decide) reason other

theorem ReadFrom.not_report {stream : OutputStream} {output : ProcessOutput} (source : ReadFrom stream output) :
    ¬ IsReport output := by
  rintro (⟨code, exited⟩ | ⟨reason, failed⟩)
  · exact source.ne_exited code exited
  · rcases source with ⟨text, rfl⟩ | ⟨other, rfl⟩
    · cases stream <;> cases failed
    · exact readFault_ne_waitFault other reason (ProcessOutput.failed.inj failed)

/-- A report is made, and no other is made before or after it. -/
def ReportedOnce (report : ProcessOutput) (outputs : List ProcessOutput) : Prop :=
  IsReport report ∧ ∃ before after, outputs = before ++ report :: after ∧ ∀ output ∈ before ++ after, ¬ IsReport output

/-- A kill is in order: the process was there when its grace expired or when its holder let go of it. -/
def Condemned (events : List ChildEvent) : Prop :=
  ∃ earlier event later, events = earlier ++ event :: later ∧ (play {} earlier).1.exit = none ∧
    (event = .graceExpired ∧ (play {} earlier).1.hold = .shuttingDown ∨ event = .drop ∧ (play {} earlier).1.hold = .held)

theorem Condemned.append {events : List ChildEvent} (condemned : Condemned events) (later : List ChildEvent) :
    Condemned (events ++ later) := by
  obtain ⟨earlier, event, rest, rfl, alive, cause⟩ := condemned
  exact ⟨earlier, event, rest ++ later, by simp, alive, cause⟩

/-- What holds of a child all the time. -/
structure Sound (child : Child) : Prop where
  known : child.stage ≠ .waiting → child.waitFailure = none → child.exit ≠ none
  asked : child.hold = .dropped → child.killAsked = true

theorem closeStream_keeps (child : Child) (stream : OutputStream) :
    (child.closeStream stream).exit = child.exit ∧ (child.closeStream stream).waitFailure = child.waitFailure ∧
      (child.closeStream stream).hold = child.hold ∧ (child.closeStream stream).killAsked = child.killAsked ∧
      (child.closeStream stream).killed = child.killed := by
  cases stream <;> exact ⟨rfl, rfl, rfl, rfl, rfl⟩

namespace Step
variable {child after : Child} {event : ChildEvent} {outputs : List ProcessOutput}

/-- An exit that is known stays what it is. -/
theorem exit_kept (step : Step child event after outputs) {code : Option Int} (gone : child.exit = some code) :
    after.exit = some code := by
  cases step with
  | broke stream | closed stream => exact (closeStream_keeps child stream).1.trans gone
  | ended other alive | killed _ alive => cases alive.symm.trans gone
  | _ => exact gone

theorem hold_kept (step : Step child event after outputs) (loose : child.hold ≠ .held) : after.hold = child.hold := by
  cases step with
  | broke stream | closed stream => exact (closeStream_keeps child stream).2.2.1
  | released held | dropped held => exact absurd held loose
  | _ => rfl

theorem killAsked_kept (step : Step child event after outputs) (asked : child.killAsked = true) : after.killAsked = true := by
  cases step with
  | broke stream | closed stream => exact (closeStream_keeps child stream).2.2.2.1.trans asked
  | condemned | dropped => rfl
  | _ => exact asked

/-- A kill is asked for when the grace is over or the holder is gone. -/
theorem killAsked_cases (step : Step child event after outputs) (asked : after.killAsked = true) :
    child.killAsked = true ∨ event = .graceExpired ∧ child.hold = .shuttingDown ∨ event = .drop ∧ child.hold = .held := by
  cases step with
  | broke stream | closed stream => exact .inl ((closeStream_keeps child stream).2.2.2.1 ▸ asked)
  | condemned patient => exact .inr (.inl ⟨rfl, patient⟩)
  | dropped held => exact .inr (.inr ⟨rfl, held⟩)
  | _ => exact .inl asked

/-- What is killed has not ended, and its death has been asked for. -/
theorem killed_cases (step : Step child event after outputs) (killed : after.killed = true) :
    child.killed = true ∨ child.exit = none ∧ child.killAsked = true := by
  cases step with
  | broke stream | closed stream => exact .inl ((closeStream_keeps child stream).2.2.2.2 ▸ killed)
  | killed _ alive asked => exact .inr ⟨alive, asked⟩
  | _ => exact .inl killed

theorem sound (step : Step child event after outputs) (sound : Sound child) : Sound after := by
  cases step with
  | broke stream | closed stream =>
    obtain ⟨exit, failure, hold, asked, _⟩ := closeStream_keeps child stream
    constructor
    · rw [closeStream_stage, exit, failure]
      exact sound.known
    · rw [hold, asked]
      exact sound.asked
  | ended => exact ⟨fun _ _ => Option.some_ne_none _, sound.asked⟩
  | unwaited => exact ⟨fun _ success => (Option.some_ne_none _ success).elim, sound.asked⟩
  | released => exact ⟨sound.known, fun dropped => nomatch dropped⟩
  | condemned | dropped => exact ⟨sound.known, fun _ => rfl⟩
  | noticed code _ gone => exact ⟨fun _ _ => by simp [gone], sound.asked⟩
  | killed => exact ⟨fun _ _ => Option.some_ne_none _, sound.asked⟩
  | drained _ passes | reported _ passes =>
    refine ⟨fun _ success => sound.known ?_ success, sound.asked⟩
    simp [passes.1]
  | ignored | read => exact sound

/-- Once the monitor does not wait for the process any more, it is settled what it will say. -/
theorem report_kept (step : Step child event after outputs) (sound : Sound child) (through : child.stage ≠ .waiting) :
    after.report = child.report := by
  cases step with
  | broke stream | closed stream =>
    obtain ⟨exit, failure, _⟩ := closeStream_keeps child stream
    simp only [report, exit, failure]
  | ended code alive =>
    cases failure : child.waitFailure with
    | none => exact absurd alive (sound.known through failure)
    | some reason => simp only [report, failure]
  | unwaited _ waiting | noticed _ waiting | killed waiting => exact absurd waiting through
  | _ => rfl

/-- A report is made on the last step of the monitor, and always made there. -/
theorem report_iff (step : Step child event after outputs) :
    (∃ output ∈ outputs, IsReport output) ↔ child.stage ≠ .reported ∧ after.stage = .reported := by
  constructor
  · rintro ⟨output, member, isReport⟩
    rcases step.output_cases with rfl | ⟨stream, word, rfl, _, _, source, _⟩ | ⟨_, stage, reported⟩
    · cases member
    · cases List.mem_singleton.mp member
      exact absurd isReport source.not_report
    · exact ⟨by simp [stage], reported⟩
  · rintro ⟨unreported, reported⟩
    rcases step.output_cases with quiet | ⟨_, _, _, _, _, _, same⟩ | ⟨rfl, _, _⟩
    · rcases step.stage_cases with same | ⟨_, stage⟩ | ⟨_, stage⟩ | ⟨passes, _⟩
      · exact absurd (same.symm.trans reported) unreported
      · cases stage.symm.trans reported
      · cases stage.symm.trans reported
      · cases step with
        | reported => cases quiet
        | broke other | closed other => exact absurd ((closeStream_stage child other).symm.trans reported) unreported
        | drained | noticed | unwaited | killed => cases reported
        | _ => exact absurd reported unreported
    · exact absurd (same.symm.trans reported) unreported
    · exact ⟨_, List.mem_singleton.mpr rfl, child.report_isReport⟩

end Step

theorem sound_play (events : List ChildEvent) : Sound (play {} events).1 := by
  induction events using List.reverseRecOn with
  | nil => exact ⟨fun through => absurd rfl through, fun dropped => nomatch dropped⟩
  | append_singleton events event ih =>
    rw [play_snoc]
    exact ((play {} events).1.step_steps event).sound ih

/-! ### The report -/

/-- No report is made until the monitor is through, and then it has been made once. -/
theorem reportedOnce_play (events : List ChildEvent) :
    ((play {} events).1.stage ≠ .reported → ∀ output ∈ (play {} events).2, ¬ IsReport output) ∧
      ((play {} events).1.stage = .reported → ReportedOnce (play {} events).1.report (play {} events).2) := by
  induction events using List.reverseRecOn with
  | nil => exact ⟨fun _ _ member => (List.not_mem_nil member).elim, fun reported => nomatch reported⟩
  | append_singleton events event ih =>
    rw [play_snoc]
    generalize state : (play {} events).1 = child at ih
    have step := child.step_steps event
    constructor
    · intro unreported output member isReport
      have before : child.stage ≠ .reported := fun reported => unreported (step.reported_stays reported)
      rcases List.mem_append.mp member with earlier | new
      · exact ih.1 before output earlier isReport
      · exact unreported (step.report_iff.mp ⟨output, new, isReport⟩).2
    · intro reported
      by_cases before : child.stage = .reported
      · obtain ⟨isReport, front, back, said, others⟩ := ih.2 before
        have kept := step.report_kept (state ▸ sound_play events) (by simp [before])
        rw [kept]
        refine ⟨isReport, front, back ++ (child.step event).2, by simp [said], ?_⟩
        intro output member again
        rw [← List.append_assoc] at member
        rcases List.mem_append.mp member with earlier | new
        · exact others output earlier again
        · exact (step.report_iff.mp ⟨output, new, again⟩).1 before
      · rcases step.output_cases with quiet | ⟨_, _, _, _, _, _, same⟩ | ⟨one, stage, _⟩
        · obtain ⟨output, member, _⟩ := step.report_iff.mpr ⟨before, reported⟩
          rw [quiet] at member
          cases member
        · exact absurd (same.symm.trans reported) before
        · have kept := step.report_kept (state ▸ sound_play events) (by simp [stage])
          rw [kept, one]
          refine ⟨child.report_isReport, _, [], rfl, ?_⟩
          intro output member
          rw [List.append_nil] at member
          exact ih.1 before output member

/-- If nothing hinders the monitor to wait, what it reports is the exit of the process. -/
theorem report_of_exit {child : Child} (sound : Sound child) (through : child.stage ≠ .waiting)
    (success : child.waitFailure = none) : ∃ code, child.exit = some code ∧ child.report = .exited code := by
  obtain ⟨code, gone⟩ := Option.ne_none_iff_exists'.mp (sound.known through success)
  exact ⟨code, gone, by simp [report, success, gone]⟩

/-! ### Kills -/

theorem condemned_of_asked (events : List ChildEvent) (alive : (play {} events).1.exit = none)
    (asked : (play {} events).1.killAsked = true) : Condemned events := by
  induction events using List.reverseRecOn with
  | nil => cases asked
  | append_singleton events event ih =>
    rw [play_snoc] at alive asked
    have step := (play {} events).1.step_steps event
    have before : (play {} events).1.exit = none := by
      cases gone : (play {} events).1.exit with
      | none => rfl
      | some code => cases (step.exit_kept gone).symm.trans alive
    rcases step.killAsked_cases asked with already | cause
    · exact (ih before already).append [event]
    · exact ⟨events, event, [], rfl, before, cause⟩

/-- Whoever is killed has outlived the grace, or the holder. -/
theorem condemned_of_killed (events : List ChildEvent) (killed : (play {} events).1.killed = true) : Condemned events := by
  induction events using List.reverseRecOn with
  | nil => cases killed
  | append_singleton events event ih =>
    rw [play_snoc] at killed
    rcases ((play {} events).1.step_steps event).killed_cases killed with before | ⟨alive, asked⟩
    · exact (ih before).append [event]
    · exact (condemned_of_asked events alive asked).append [event]

/-! ### Schedules without end -/

section Schedule
variable (schedule : Nat → ChildEvent)

def upTo (time : Nat) : List ChildEvent := (List.range time).map schedule

def stateAt (time : Nat) : Child := (play {} (upTo schedule time)).1

/-- What is passed on at a time. -/
def saidAt (time : Nat) : List ProcessOutput := ((stateAt schedule time).step (schedule time)).2

/-- The monitor goes on when it can, and the clocks that it and the holder wait for expire. -/
structure WeaklyFair : Prop where
  monitor : ∀ time, (∀ later, time ≤ later → (stateAt schedule later).stage = .waiting ∧
      ((stateAt schedule later).exit ≠ none ∨ (stateAt schedule later).killAsked = true)) →
    ∃ later, time ≤ later ∧ schedule later = .monitor
  drain : ∀ time stream, (∀ later, time ≤ later → (stateAt schedule later).stage = .draining stream) →
    ∃ later, time ≤ later ∧ schedule later = .drainExpired
  grace : ∀ time, (∀ later, time ≤ later → (stateAt schedule later).hold = .shuttingDown ∧
      (stateAt schedule later).stage ≠ .reported) →
    ∃ later, time ≤ later ∧ schedule later = .graceExpired

/-- At some time the process has ended by itself, or its holder has let go of it. -/
def ComesToEnd : Prop := ∃ time, (stateAt schedule time).exit ≠ none ∨ (stateAt schedule time).hold ≠ .held

variable {schedule}

theorem stateAt_succ (time : Nat) : stateAt schedule (time + 1) = ((stateAt schedule time).step (schedule time)).1 := by
  simp [stateAt, upTo, List.range_succ, play_snoc]

theorem steps_at (time : Nat) :
    Step (stateAt schedule time) (schedule time) (stateAt schedule (time + 1)) (saidAt schedule time) := by
  rw [stateAt_succ]
  exact (stateAt schedule time).step_steps (schedule time)

/-- What no step takes away stays. -/
theorem stays (holds : Child → Prop) {time : Nat} (now : holds (stateAt schedule time))
    (kept : ∀ later, time ≤ later → holds (stateAt schedule later) → holds (stateAt schedule (later + 1))) :
    ∀ later, time ≤ later → holds (stateAt schedule later) := by
  intro later after
  induction later, after using Nat.le_induction with
  | base => exact now
  | succ later after ih => exact kept later after ih

theorem stays_reported {time : Nat} (reported : (stateAt schedule time).stage = .reported) :
    ∀ later, time ≤ later → (stateAt schedule later).stage = .reported :=
  stays (fun child => child.stage = .reported) reported
    fun later _ before => (steps_at later).reported_stays before

theorem stays_shuttingDown {time : Nat} (patient : (stateAt schedule time).hold = .shuttingDown) :
    ∀ later, time ≤ later → (stateAt schedule later).hold = .shuttingDown := by
  refine stays (fun child => child.hold = .shuttingDown) patient fun later _ before => ?_
  rw [(steps_at later).hold_kept (by simp [before]), before]

/-- How many stages the monitor has before it. -/
def ahead : MonitorStage → Nat
  | .waiting => 3
  | .draining .output => 2
  | .draining .error => 1
  | .reported => 0

theorem ahead_step (time : Nat) : ahead (stateAt schedule (time + 1)).stage ≤ ahead (stateAt schedule time).stage := by
  rcases (steps_at time).stage_cases with same | ⟨first, second⟩ | ⟨⟨first, _⟩, second⟩ | ⟨⟨first, _⟩, second⟩
  · exact Nat.le_of_eq (congrArg ahead same)
  all_goals
    rw [first, second]
    decide

theorem ahead_later {time later : Nat} (after : time ≤ later) :
    ahead (stateAt schedule later).stage ≤ ahead (stateAt schedule time).stage := by
  induction later, after using Nat.le_induction with
  | base => exact Nat.le_refl _
  | succ later after ih => exact Nat.le_trans (ahead_step later) ih

theorem ahead_inj {stage other : MonitorStage} (same : ahead stage = ahead other) : stage = other := by
  cases stage with
  | waiting | reported =>
    cases other with
    | draining stream => cases stream <;> cases same
    | waiting | reported => first | rfl | cases same
  | draining stream =>
    cases other with
    | draining other => cases stream <;> cases other <;> first | rfl | cases same
    | waiting | reported => cases stream <;> cases same

namespace WeaklyFair
variable (fair : WeaklyFair schedule)
include fair

/-- The monitor does not wait for a process for ever that has ended or is to be killed. -/
theorem leaves_waiting {time : Nat}
    (due : (stateAt schedule time).exit ≠ none ∨ (stateAt schedule time).killAsked = true) :
    ∃ later, time ≤ later ∧ (stateAt schedule later).stage ≠ .waiting := by
  by_contra never
  have waits (later : Nat) (after : time ≤ later) : (stateAt schedule later).stage = .waiting :=
    Decidable.byContradiction fun through => never ⟨later, after, through⟩
  have stillDue : ∀ later, time ≤ later →
      (stateAt schedule later).exit ≠ none ∨ (stateAt schedule later).killAsked = true := by
    refine stays (fun child => child.exit ≠ none ∨ child.killAsked = true) due ?_
    rintro later _ (gone | asked)
    · obtain ⟨code, known⟩ := Option.ne_none_iff_exists'.mp gone
      exact .inl (by simp [(steps_at later).exit_kept known])
    · exact .inr ((steps_at later).killAsked_kept asked)
  obtain ⟨later, after, event⟩ := fair.monitor time fun later after => ⟨waits later after, stillDue later after⟩
  have waiting := waits later after
  apply absurd (waits (later + 1) (by omega))
  rw [stateAt_succ, event]
  rcases stillDue later after with gone | asked
  · obtain ⟨code, known⟩ := Option.ne_none_iff_exists'.mp gone
    simp [step, monitorStep, waiting, known]
  · cases known : (stateAt schedule later).exit <;> simp [step, monitorStep, waiting, known, asked]

theorem leaves_draining {time : Nat} {stream : OutputStream} (draining : (stateAt schedule time).stage = .draining stream) :
    ∃ later, time ≤ later ∧ ahead (stateAt schedule later).stage < ahead (.draining stream) := by
  by_contra never
  have bound (later : Nat) (after : time ≤ later) : ahead (.draining stream) ≤ ahead (stateAt schedule later).stage :=
    Nat.le_of_not_lt fun fewer => never ⟨later, after, fewer⟩
  have stuck : ∀ later, time ≤ later → (stateAt schedule later).stage = .draining stream := by
    intro later after
    have before : ahead (stateAt schedule later).stage ≤ ahead (stateAt schedule time).stage := ahead_later after
    rw [draining] at before
    exact ahead_inj (Nat.le_antisymm before (bound later after))
  obtain ⟨later, after, event⟩ := fair.drain time stream stuck
  have moved := bound (later + 1) (by omega)
  rw [stateAt_succ, event] at moved
  cases stream <;> simp [step, stuck later after, afterDraining, ahead] at moved

theorem reports_eventually {time : Nat} (through : (stateAt schedule time).stage ≠ .waiting) :
    ∃ later, time ≤ later ∧ (stateAt schedule later).stage = .reported := by
  generalize left : ahead (stateAt schedule time).stage = count
  induction count using Nat.strongRecOn generalizing time with
  | ind count ih =>
    cases stage : (stateAt schedule time).stage with
    | waiting => exact absurd stage through
    | reported => exact ⟨time, Nat.le_refl _, stage⟩
    | draining stream =>
      obtain ⟨later, after, fewer⟩ := fair.leaves_draining stage
      rw [stage] at left
      have moved : (stateAt schedule later).stage ≠ .waiting := by
        intro waiting
        rw [waiting] at fewer
        cases stream <;> simp [ahead] at fewer
      obtain ⟨last, further, reported⟩ := ih _ (left ▸ fewer) moved rfl
      exact ⟨last, by omega, reported⟩

/-- Whoever shuts a child down does not wait in vain. -/
theorem asks_eventually {time : Nat} (patient : (stateAt schedule time).hold = .shuttingDown) :
    ∃ later, time ≤ later ∧ ((stateAt schedule later).killAsked = true ∨ (stateAt schedule later).stage = .reported) := by
  by_contra never
  have unreported (later : Nat) (after : time ≤ later) : (stateAt schedule later).stage ≠ .reported :=
    fun reported => never ⟨later, after, .inr reported⟩
  have held := stays_shuttingDown patient
  obtain ⟨later, after, event⟩ := fair.grace time fun later after => ⟨held later after, unreported later after⟩
  refine never ⟨later + 1, by omega, .inl ?_⟩
  rw [stateAt_succ, event]
  simp [step, held later after, unreported later after]

theorem reports_of_end (ends : ComesToEnd schedule) : ∃ time, (stateAt schedule time).stage = .reported := by
  have due : ∃ time, (stateAt schedule time).exit ≠ none ∨ (stateAt schedule time).killAsked = true ∨
      (stateAt schedule time).stage = .reported := by
    obtain ⟨time, gone | loose⟩ := ends
    · exact ⟨time, .inl gone⟩
    · cases hold : (stateAt schedule time).hold with
      | held => exact absurd hold loose
      | dropped => exact ⟨time, .inr (.inl ((sound_play _).asked hold))⟩
      | shuttingDown =>
        obtain ⟨later, _, asked⟩ := fair.asks_eventually hold
        exact ⟨later, .inr asked⟩
  obtain ⟨time, gone | asked | reported⟩ := due
  · obtain ⟨later, _, through⟩ := fair.leaves_waiting (.inl gone)
    exact (fair.reports_eventually through).imp fun _ last => last.2
  · obtain ⟨later, _, through⟩ := fair.leaves_waiting (.inr asked)
    exact (fair.reports_eventually through).imp fun _ last => last.2
  · exact ⟨time, reported⟩

/-- The report comes, and it comes once. -/
theorem reports_once (ends : ComesToEnd schedule) : ∃! time, ∃ output ∈ saidAt schedule time, IsReport output := by
  obtain ⟨last, reported⟩ := fair.reports_of_end ends
  have makes (time : Nat) : (∃ output ∈ saidAt schedule time, IsReport output) ↔
      (stateAt schedule time).stage ≠ .reported ∧ (stateAt schedule (time + 1)).stage = .reported :=
    (steps_at time).report_iff
  have some : ∃ time, (stateAt schedule time).stage ≠ .reported ∧ (stateAt schedule (time + 1)).stage = .reported := by
    by_contra never
    have unreported : ∀ time, (stateAt schedule time).stage ≠ .reported := by
      intro time
      induction time with
      | zero => simp [stateAt, upTo, play]
      | succ time ih => exact fun reported => never ⟨time, ih, reported⟩
    exact unreported last reported
  obtain ⟨time, now⟩ := some
  refine ⟨time, (makes time).mpr now, ?_⟩
  intro other again
  have then' := (makes other).mp again
  rcases Nat.lt_trichotomy other time with early | same | late
  · exact absurd (stays_reported then'.2 time early) now.1
  · exact same
  · exact absurd (stays_reported now.2 other late) then'.1

/-- A shutdown returns. -/
theorem shutdown_returns {time : Nat} (patient : (stateAt schedule time).hold = .shuttingDown) :
    ∃ later, time ≤ later ∧ (stateAt schedule later).shutDownReturned = true := by
  obtain ⟨last, reported⟩ := fair.reports_of_end ⟨time, .inr (by simp [patient])⟩
  have held := stays_shuttingDown patient
  refine ⟨max time last, Nat.le_max_left time last, ?_⟩
  simp [shutDownReturned, held _ (Nat.le_max_left time last), stays_reported reported _ (Nat.le_max_right time last)]

end WeaklyFair

end Schedule

end BuildWatch.Child
