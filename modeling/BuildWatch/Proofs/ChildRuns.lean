import BuildWatch.Child
import Mathlib.Data.List.Induction

/-! Runs of a child process in the order in which its readers, its monitor and its holder happen to act. The report of
the exit is the last thing heard of a child unless the monitor has given a reader up: then the reader goes on, and what it
still finds comes behind the report. -/

namespace BuildWatch.Child

/-- A child after some events, and what has been passed on about it. -/
def play (child : Child) : List ChildEvent → Child × List ProcessOutput
  | [] => (child, [])
  | event :: later =>
    let rest := play (child.step event).1 later
    (rest.1, (child.step event).2 ++ rest.2)

theorem play_append (child : Child) (earlier later : List ChildEvent) :
    play child (earlier ++ later) =
      ((play (play child earlier).1 later).1, (play child earlier).2 ++ (play (play child earlier).1 later).2) := by
  induction earlier generalizing child with
  | nil => rfl
  | cons event earlier ih => simp [play, ih]

theorem play_snoc (child : Child) (events : List ChildEvent) (event : ChildEvent) :
    play child (events ++ [event]) =
      (((play child events).1.step event).1, (play child events).2 ++ ((play child events).1.step event).2) := by
  simp [play_append, play]

/-! ### What one event can do -/

/-- The monitor need not wait for a reader any longer: it is through, or its time is up. -/
def Passes (child : Child) (stream : OutputStream) (event : ChildEvent) : Prop :=
  child.stage = .draining stream ∧ (event = .monitor ∧ child.isOpen stream = false ∨ event = .drainExpired)

/-- All that can come of an event. -/
inductive Step (child : Child) : ChildEvent → Child → List ProcessOutput → Prop where
  | ignored (event : ChildEvent) : Step child event child []
  | read (stream : OutputStream) (text : String) (reading : child.isOpen stream = true) :
      Step child (.line stream text) child [lineOutput stream text]
  | broke (stream : OutputStream) (reason : String) (reading : child.isOpen stream = true) :
      Step child (.unreadable stream reason) (child.closeStream stream) [.failed (readFault reason)]
  | closed (stream : OutputStream) : Step child (.streamEnded stream) (child.closeStream stream) []
  | ended (code : Option Int) (alive : child.exit = none) : Step child (.ended code) { child with exit := some code } []
  | unwaited (reason : String) (waiting : child.stage = .waiting) :
      Step child (.unwaitable reason) { child with waitFailure := some reason, stage := .draining .output } []
  | released (held : child.hold = .held) : Step child .shutDown { child with hold := .shuttingDown } []
  | condemned (patient : child.hold = .shuttingDown) (unreported : child.stage ≠ .reported) :
      Step child .graceExpired { child with killAsked := true } []
  | dropped (held : child.hold = .held) : Step child .drop { child with hold := .dropped, killAsked := true } []
  | noticed (code : Option Int) (waiting : child.stage = .waiting) (gone : child.exit = some code) :
      Step child .monitor { child with stage := .draining .output } []
  | killed (waiting : child.stage = .waiting) (alive : child.exit = none) (asked : child.killAsked = true) :
      Step child .monitor { child with exit := some none, killed := true, stage := .draining .output } []
  | drained (event : ChildEvent) (passes : child.Passes .output event) :
      Step child event { child with stage := .draining .error } []
  | reported (event : ChildEvent) (passes : child.Passes .error event) :
      Step child event { child with stage := .reported } [child.report]

theorem Passes.step {child : Child} {stream : OutputStream} {event : ChildEvent} (passes : child.Passes stream event) :
    child.step event = child.afterDraining stream := by
  obtain ⟨stage, ⟨rfl, closed⟩ | rfl⟩ := passes
  · simp only [Child.step, monitorStep, stage, closed, Bool.false_eq_true, if_false]
  · simp only [Child.step, stage]

theorem Passes.steps {child : Child} {stream : OutputStream} {event : ChildEvent} (passes : child.Passes stream event) :
    Step child event (child.step event).1 (child.step event).2 := by
  rw [passes.step]
  cases stream with
  | output => exact .drained event passes
  | error => exact .reported event passes

theorem monitor_steps (child : Child) : Step child .monitor child.monitorStep.1 child.monitorStep.2 := by
  cases stage : child.stage with
  | waiting =>
    simp only [monitorStep, stage]
    split
    next code gone => exact .noticed code stage gone
    next gone =>
      split
      next asked => exact .killed stage gone asked
      next => exact .ignored _
  | draining stream =>
    cases reading : child.isOpen stream with
    | true =>
      simp only [monitorStep, stage, reading, if_true]
      exact .ignored _
    | false => exact Passes.steps ⟨stage, Or.inl ⟨rfl, reading⟩⟩
  | reported =>
    simp only [monitorStep, stage]
    exact .ignored _

theorem step_steps (child : Child) (event : ChildEvent) : Step child event (child.step event).1 (child.step event).2 := by
  cases event with
  | line stream text =>
    simp only [step]
    split
    next reading => exact .read stream text reading
    next => exact .ignored _
  | unreadable stream reason =>
    simp only [step]
    split
    next reading => exact .broke stream reason reading
    next => exact .ignored _
  | streamEnded stream => exact .closed stream
  | ended code =>
    simp only [step]
    split
    next alive => exact .ended code (Option.isNone_iff_eq_none.mp alive)
    next => exact .ignored _
  | unwaitable reason =>
    simp only [step]
    split
    next waiting => exact .unwaited reason waiting
    next => exact .ignored _
  | shutDown =>
    simp only [step]
    split
    next held => exact .released held
    next => exact .ignored _
  | graceExpired =>
    simp only [step, Bool.and_eq_true, decide_eq_true_eq, bne_iff_ne]
    split
    next late => exact .condemned late.1 late.2
    next => exact .ignored _
  | drop =>
    simp only [step]
    split
    next held => exact .dropped held
    next => exact .ignored _
  | drainExpired =>
    cases stage : child.stage with
    | draining stream => exact Passes.steps ⟨stage, Or.inr rfl⟩
    | waiting | reported =>
      simp only [step, stage]
      exact .ignored _
  | monitor => exact child.monitor_steps

theorem closeStream_stage (child : Child) (stream : OutputStream) : (child.closeStream stream).stage = child.stage := by
  cases stream <;> rfl

theorem isOpen_closeStream {child : Child} {stream other : OutputStream}
    (reading : (child.closeStream stream).isOpen other = true) : child.isOpen other = true := by
  cases stream <;> cases other <;> first | exact reading | cases reading

/-- What a reader passes on. -/
def ReadFrom (stream : OutputStream) (output : ProcessOutput) : Prop :=
  (∃ text, output = lineOutput stream text) ∨ ∃ reason, output = .failed (readFault reason)

/-- The stream that an event has to do with the reading of. -/
def readStream? : ChildEvent → Option OutputStream
  | .line stream _ | .unreadable stream _ => some stream
  | _ => none

namespace Step
variable {child after : Child} {event : ChildEvent} {outputs : List ProcessOutput}

/-- An event is silent, or a reader passes something on, or the monitor makes its report. -/
theorem output_cases (step : Step child event after outputs) :
    outputs = [] ∨
      (∃ stream output, outputs = [output] ∧ readStream? event = some stream ∧ child.isOpen stream = true ∧
        ReadFrom stream output ∧ after.stage = child.stage) ∨
      (outputs = [child.report] ∧ child.stage = .draining .error ∧ after.stage = .reported) := by
  cases step with
  | read stream text reading => exact .inr (.inl ⟨stream, _, rfl, rfl, reading, .inl ⟨text, rfl⟩, rfl⟩)
  | broke stream reason reading =>
    exact .inr (.inl ⟨stream, _, rfl, rfl, reading, .inr ⟨reason, rfl⟩, closeStream_stage child stream⟩)
  | reported event passes => exact .inr (.inr ⟨rfl, passes.1, rfl⟩)
  | _ => exact .inl rfl

/-- A stream that is closed stays closed. -/
theorem isOpen_before (step : Step child event after outputs) {stream : OutputStream} (reading : after.isOpen stream = true) :
    child.isOpen stream = true := by
  cases step with
  | broke other | closed other => exact isOpen_closeStream reading
  | _ => cases stream <;> exact reading

/-- The monitor goes from one stage to the next, and leaves a stream only when it need not wait for it any longer. -/
theorem stage_cases (step : Step child event after outputs) :
    after.stage = child.stage ∨
      (child.stage = .waiting ∧ after.stage = .draining .output) ∨
      (child.Passes .output event ∧ after.stage = .draining .error) ∨
      (child.Passes .error event ∧ after.stage = .reported) := by
  cases step with
  | broke stream | closed stream => exact .inl (closeStream_stage child stream)
  | unwaited _ waiting | noticed _ waiting | killed waiting => exact .inr (.inl ⟨waiting, rfl⟩)
  | drained _ passes => exact .inr (.inr (.inl ⟨passes, rfl⟩))
  | reported _ passes => exact .inr (.inr (.inr ⟨passes, rfl⟩))
  | _ => exact .inl rfl

theorem reported_stays (step : Step child event after outputs) (reported : child.stage = .reported) :
    after.stage = .reported := by
  rcases step.stage_cases with same | ⟨stage, _⟩ | ⟨⟨stage, _⟩, _⟩ | ⟨_, stage⟩
  · exact same.trans reported
  · cases reported.symm.trans stage
  · cases reported.symm.trans stage
  · exact stage

end Step

/-! ### What has been passed on, and when -/

/-- Every output has its event, and what stands before and behind it comes of the events before and behind that. -/
theorem play_split {child : Child} {events : List ChildEvent} {before after : List ProcessOutput} {output : ProcessOutput}
    (said : (play child events).2 = before ++ output :: after) :
    ∃ earlier event later, events = earlier ++ event :: later ∧ (play child earlier).2 = before ∧
      ((play child earlier).1.step event).2 = [output] ∧
      (play ((play child earlier).1.step event).1 later).2 = after := by
  induction events generalizing child before with
  | nil => simp [play] at said
  | cons event events ih =>
    simp only [play] at said
    have silent (quiet : (child.step event).2 = []) : ∃ earlier next later, event :: events = earlier ++ next :: later ∧
        (play child earlier).2 = before ∧ ((play child earlier).1.step next).2 = [output] ∧
        (play ((play child earlier).1.step next).1 later).2 = after := by
      rw [quiet, List.nil_append] at said
      obtain ⟨earlier, next, later, rfl, first, second, third⟩ := ih said
      exact ⟨event :: earlier, next, later, rfl, by simp [play, quiet, first], by simp [play, second], by simp [play, third]⟩
    have spoken {word : ProcessOutput} (one : (child.step event).2 = [word]) : ∃ earlier next later,
        event :: events = earlier ++ next :: later ∧ (play child earlier).2 = before ∧
        ((play child earlier).1.step next).2 = [output] ∧ (play ((play child earlier).1.step next).1 later).2 = after := by
      rw [one] at said
      cases before with
      | nil =>
        obtain ⟨rfl, rest⟩ := List.cons.inj said
        exact ⟨[], event, events, rfl, rfl, one, rest⟩
      | cons first before =>
        obtain ⟨rfl, rest⟩ := List.cons.inj said
        obtain ⟨earlier, next, later, rfl, first, second, third⟩ := ih rest
        exact ⟨event :: earlier, next, later, rfl, by simp [play, one, first], by simp [play, second], by simp [play, third]⟩
    rcases (child.step_steps event).output_cases with quiet | ⟨_, _, one, _⟩ | ⟨one, _⟩
    · exact silent quiet
    · exact spoken one
    · exact spoken one

theorem play_reported {child : Child} (reported : child.stage = .reported) (events : List ChildEvent) :
    (play child events).1.stage = .reported := by
  induction events generalizing child with
  | nil => exact reported
  | cons event events ih => exact ih ((child.step_steps event).reported_stays reported)

/-- Behind its report the monitor says nothing, and readers speak only for streams that are still open. -/
theorem read_behind_report {child : Child} (reported : child.stage = .reported) {event : ChildEvent} {output : ProcessOutput}
    (said : (child.step event).2 = [output]) :
    ∃ stream, readStream? event = some stream ∧ child.isOpen stream = true ∧ ReadFrom stream output := by
  rcases (child.step_steps event).output_cases with quiet | ⟨stream, word, one, reads, reading, source, _⟩ | ⟨_, stage, _⟩
  · cases quiet.symm.trans said
  · cases one.symm.trans said
    exact ⟨stream, reads, reading, source⟩
  · cases reported.symm.trans stage

theorem step_reading {child : Child} {event : ChildEvent} {stream : OutputStream} (reads : readStream? event = some stream)
    (reading : child.isOpen stream = true) : ∃ output, (child.step event).2 = [output] := by
  cases event with
  | line other text | unreadable other reason =>
    cases reads
    simp only [step, if_pos reading]
    exact ⟨_, rfl⟩
  | _ => cases reads

theorem ReadFrom.ne_exited {stream : OutputStream} {output : ProcessOutput} (source : ReadFrom stream output)
    (code : Option Int) : output ≠ .exited code := by
  rintro rfl
  rcases source with ⟨text, same⟩ | ⟨reason, same⟩
  · cases stream <;> cases same
  · cases same

/-- The exit is told by the monitor, at its last step. -/
theorem step_exited {child : Child} {event : ChildEvent} {code : Option Int} (said : (child.step event).2 = [.exited code]) :
    (child.step event).1.stage = .reported := by
  rcases (child.step_steps event).output_cases with quiet | ⟨stream, word, one, _, _, source, _⟩ | ⟨_, _, stage⟩
  · cases quiet.symm.trans said
  · cases one.symm.trans said
    exact absurd rfl (source.ne_exited code)
  · exact stage

/-! ### Readers that are given up -/

/-- The monitor has stopped to wait for a reader that was not through. -/
def GivenUp (events : List ChildEvent) (stream : OutputStream) : Prop :=
  ∃ earlier later, events = earlier ++ .drainExpired :: later ∧ (play {} earlier).1.stage = .draining stream ∧
    (play {} earlier).1.isOpen stream = true

theorem GivenUp.append {events : List ChildEvent} {stream : OutputStream} (given : GivenUp events stream)
    (later : List ChildEvent) : GivenUp (events ++ later) stream := by
  obtain ⟨earlier, rest, rfl, stage, reading⟩ := given
  exact ⟨earlier, rest ++ later, by simp, stage, reading⟩

/-- Whether the monitor does not wait for a stream any more. -/
def Behind (child : Child) : OutputStream → Prop
  | .output => child.stage = .draining .error ∨ child.stage = .reported
  | .error => child.stage = .reported

theorem Step.behind {child after : Child} {event : ChildEvent} {outputs : List ProcessOutput}
    (step : Step child event after outputs) {stream : OutputStream} (behind : after.Behind stream) :
    child.Behind stream ∨ child.Passes stream event := by
  rcases step.stage_cases with same | ⟨_, stage⟩ | ⟨passes, stage⟩ | ⟨passes, stage⟩
  · left
    cases stream <;> simpa only [Behind, same] using behind
  · cases stream <;> simp [Behind, stage] at behind
  · cases stream with
    | output => exact .inr passes
    | error => simp [Behind, stage] at behind
  · cases stream with
    | output => exact .inl (.inl passes.1)
    | error => exact .inr passes

/-- A stream that is open though the monitor does not wait for it any more has been given up. -/
theorem givenUp_of_behind (events : List ChildEvent) {stream : OutputStream} (behind : (play {} events).1.Behind stream)
    (reading : (play {} events).1.isOpen stream = true) : GivenUp events stream := by
  induction events using List.reverseRecOn with
  | nil => cases stream <;> simp [play, Behind] at behind
  | append_singleton events event ih =>
    rw [play_snoc] at behind reading
    have step := (play {} events).1.step_steps event
    have before := step.isOpen_before reading
    rcases step.behind behind with earlier | ⟨stage, ⟨_, closed⟩ | rfl⟩
    · exact (ih earlier before).append [event]
    · cases before.symm.trans closed
    · exact ⟨events, [], rfl, stage, before⟩

theorem behind_of_reported {child : Child} (reported : child.stage = .reported) (stream : OutputStream) :
    child.Behind stream := by
  cases stream with
  | output => exact .inr reported
  | error => exact reported

/-- What is passed on behind the exit comes of an event at a reader that is still reading, though it was given up before. -/
theorem output_behind_exit {events : List ChildEvent} {before front after : List ProcessOutput} {code : Option Int}
    {output : ProcessOutput} (said : (play {} events).2 = before ++ .exited code :: (front ++ output :: after)) :
    ∃ earlier event later stream, events = earlier ++ event :: later ∧ .exited code ∈ (play {} earlier).2 ∧
      GivenUp earlier stream ∧ (play {} earlier).1.isOpen stream = true ∧ readStream? event = some stream ∧
      ReadFrom stream output := by
  obtain ⟨earlier, event, later, rfl, _, one, rest⟩ := play_split said
  obtain ⟨middle, reading, last, rfl, _, spoken, _⟩ := play_split rest
  have reported := play_reported (step_exited one) middle
  obtain ⟨stream, reads, open', source⟩ := read_behind_report reported spoken
  have state : (play ((play {} earlier).1.step event).1 middle).1 = (play {} (earlier ++ event :: middle)).1 := by
    simp [play_append, play]
  have told : .exited code ∈ (play {} (earlier ++ event :: middle)).2 := by
    simp [play_append, play, one]
  rw [state] at reported open'
  have given := givenUp_of_behind _ (behind_of_reported reported stream) open'
  exact ⟨earlier ++ event :: middle, reading, last, stream, by simp, told, given, open', reads, source⟩

/-- Whatever follows the exit comes from a reader that the monitor has given up, and the exit is told only once. Something
follows it exactly if such a reader still finds something, so the exit is the last output if no reader has been given up. -/
theorem exit_is_last_unless_given_up (events : List ChildEvent) :
    (∀ before code after, (play {} events).2 = before ++ .exited code :: after →
      ∀ output ∈ after, (∀ other, output ≠ .exited other) ∧ ∃ stream, GivenUp events stream ∧ ReadFrom stream output) ∧
    ((∃ before code output after, (play {} events).2 = before ++ .exited code :: output :: after) ↔
      ∃ earlier event later stream, events = earlier ++ event :: later ∧ (∃ code, .exited code ∈ (play {} earlier).2) ∧
        GivenUp earlier stream ∧ (play {} earlier).1.isOpen stream = true ∧ readStream? event = some stream) := by
  constructor
  · intro before code after said output member
    obtain ⟨front, back, rfl⟩ := List.append_of_mem member
    obtain ⟨earlier, event, later, stream, rfl, _, given, _, _, source⟩ := output_behind_exit said
    exact ⟨source.ne_exited, stream, given.append (event :: later), source⟩
  · constructor
    · rintro ⟨before, code, output, after, said⟩
      have behind : (play {} events).2 = before ++ .exited code :: ([] ++ output :: after) := said
      obtain ⟨earlier, event, later, stream, shape, told, given, reading, reads, _⟩ := output_behind_exit behind
      exact ⟨earlier, event, later, stream, shape, ⟨code, told⟩, given, reading, reads⟩
    · rintro ⟨earlier, event, later, stream, rfl, ⟨code, told⟩, _, reading, reads⟩
      obtain ⟨before, after, said⟩ := List.append_of_mem told
      obtain ⟨output, one⟩ := step_reading reads reading
      have whole : (play {} (earlier ++ event :: later)).2 =
          before ++ .exited code :: (after ++ output :: (play ((play {} earlier).1.step event).1 later).2) := by
        simp [play_append, play, said, one]
      cases after with
      | nil => exact ⟨before, code, output, _, whole⟩
      | cons next after => exact ⟨before, code, next, _, whole⟩

/-- Another process holds the streams of a child that has exited. The monitor gives both readers up and reports the exit,
and then the other process writes a line. -/
def lateHistory : List ChildEvent :=
  [.line .output "first", .ended (some 0), .monitor, .drainExpired, .drainExpired, .line .output "late"]

theorem line_follows_exit :
    (play {} lateHistory).2 = [.outputLine "first", .exited (some 0), .outputLine "late"] := by
  decide

theorem late_reader_was_given_up : ∃ stream, GivenUp lateHistory stream ∧ ReadFrom stream (.outputLine "late") := by
  obtain ⟨behind, _⟩ := exit_is_last_unless_given_up lateHistory
  have said : (play {} lateHistory).2 = [.outputLine "first"] ++ .exited (some 0) :: [.outputLine "late"] := by decide
  exact (behind _ _ _ said _ (List.mem_singleton.mpr rfl)).2

end BuildWatch.Child
