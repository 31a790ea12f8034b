import BuildWatch.Proofs.TerminalRuns
import BuildWatch.Proofs.WatchFreshness

/-! The output of a terminal. What is written and what is pending together only ever grow, at the end, by the echoes of the
input and the lines of the results, and a run that completes leaves nothing pending. -/

namespace BuildWatch.TerminalRun

/-- The echo of a line that does not interrupt. Its line end is echoed as well. -/
def Turn.echoed (turn : Turn) : List String :=
  match turn.wakeup with
  | .input (.line text) => if isInterruptLine text then [] else [Terminal.echo (text ++ "\n")]
  | _ => []

/-- What a run has to write while it goes on: the echo of every line, and a line for every result that its watch reports. -/
def due (run : TerminalRun) : List Turn → List String
  | [] => []
  | turn :: later =>
    (if run.ending.isSome then [] else turn.echoed ++ announcements (turn.perform run).2) ++ due (turn.perform run).1 later

/-- All that is written, and all that is going to be, if the run completes. -/
def said (run : TerminalRun) : List String := run.written ++ run.terminal.pending

def Heard (run : TerminalRun) : Prop := run.ending = none → run.terminal.observers.called = [()]

namespace Step
variable {run after : TerminalRun} {turn : Turn} {effects : List Effect} (step : Step run turn after effects)
include step

theorem said (heard : run.terminal.observers.called = [()]) :
    after.said = run.said ++ (turn.echoed ++ announcements effects) := by
  cases step with
  | waited => simp [TerminalRun.said, Turn.echoed, announcements]
  | wrote next => simp [TerminalRun.said, Turn.echoed, announcements, next]
  | told generation event => simp [TerminalRun.said, Turn.echoed, Terminal.adopt_heard heard]
  | echoed other => simp [TerminalRun.said, Turn.echoed, announcements, other, Terminal.write]
  | completed last nothing =>
    have silent : announcements ((run.terminal.watch.stop turn.surroundings).2 ++ [Watch.disposal]) = [] := by
      have stopping := Watch.stop_announcements turn.surroundings run.terminal.watch
      unfold announcements at stopping ⊢
      rw [List.filterMap_append, stopping]
      rfl
    have closing : turn.echoed = [] := by
      obtain ⟨surroundings, wakeup⟩ := turn
      cases wakeup with
      | input event =>
        cases event with
        | line text =>
          simp only [Turn.ending?] at last
          split at last
          next interrupt => simp [Turn.echoed, interrupt]
          next => cases last
        | _ => rfl
      | _ => rfl
    simp [TerminalRun.said, closing, silent, nothing]
  | failed reason => simp [TerminalRun.said, Turn.echoed, announcements]

theorem heard (heard : run.terminal.observers.called = [()]) : Heard after := by
  intro going
  cases step with
  | waited | wrote | echoed => exact heard
  | told generation event =>
    rw [Terminal.adopt_heard heard]
    exact heard
  | completed => cases going
  | failed => cases going

end Step

theorem play_said {run : TerminalRun} (heard : Heard run) (turns : List Turn) :
    (play run turns).1.said = run.said ++ due run turns := by
  induction turns generalizing run with
  | nil => simp [play, due]
  | cons turn later ih =>
    cases going : run.ending with
    | some reason =>
      have ended : run.ending ≠ none := by simp [going]
      rw [play, due, turn.perform_ended ended, ih heard]
      simp [going]
    | none =>
      have step := turn.step going
      rw [play, due, ih (step.heard (heard going)), step.said (heard going)]
      simp [going]

/-- A run begins with one observer, and with all that was pending before. -/
theorem begin_heard {terminal : Terminal} (attended : Terminal.Attended terminal) (surroundings : Surroundings) :
    (begin surroundings terminal).1.ending = none ∧ (begin surroundings terminal).1.terminal.observers.called = [()] ∧
      (begin surroundings terminal).1.said = terminal.pending ∧ announcements (begin surroundings terminal).2 = [] := by
  simp only [begin, Terminal.start_eq attended]
  exact ⟨trivial, rfl, rfl, Watch.start_announcements surroundings terminal.watch⟩

/-- A run ends as the first line or end of input that ends it says. If it completes, it has written the echoes of what was
input before, then the echo of every line and a line for every result reported while it went on, as they came, and nothing
else. Then nothing is left to be written, and the watch is idle. -/
theorem completed_run_has_written_all (watch : Watch) (before : List Terminal.Turn) (surroundings : Surroundings)
    (schedule : List Turn) :
    let opened := begin surroundings (Terminal.play { watch } before).1
    let run := (play opened.1 schedule).1
    run.ending = schedule.findSome? Turn.ending? ∧
    (run.ending = some .completed →
      run.written = before.flatMap Terminal.Turn.echoed ++ announcements opened.2 ++ due opened.1 schedule ∧
      run.terminal.pending = [] ∧ run.terminal.watch.isActive = false) := by
  intro opened run
  have attended := Terminal.play_attended (Terminal.attended_new watch) before
  have pending := Terminal.play_pending (Terminal.attended_new watch) before
  obtain ⟨going, called, begun, silent⟩ := begin_heard attended surroundings
  have conserved := play_said (fun _ => called) schedule
  have settled : Settled run := by
    apply play_settled
    intro completed
    rw [going] at completed
    cases completed
  refine ⟨play_ending going schedule, fun completed => ?_⟩
  obtain ⟨nothing, idle⟩ := settled completed
  refine ⟨?_, nothing, by simp [Watch.isActive, idle]⟩
  calc run.written = run.said := by rw [said, nothing, List.append_nil]
    _ = opened.1.said ++ due opened.1 schedule := conserved
    _ = before.flatMap Terminal.Turn.echoed ++ announcements opened.2 ++ due opened.1 schedule := by
      rw [begun, pending, silent, List.nil_append, List.append_nil]

/-- A terminal that is opened three times, closed and opened again by its run tells once of the build that the run sees. -/
theorem reopened_terminal_tells_once :
    let before : List Terminal.Turn := [⟨Watch.calm, .start⟩, ⟨Watch.calm, .start⟩, ⟨Watch.calm, .input "early\n"⟩,
      ⟨Watch.calm, .close⟩, ⟨Watch.calm, .start⟩]
    let schedule : List Turn := [⟨Watch.calm, .event 1 (.reported (.finished {}))⟩, ⟨Watch.calm, .input (.line "late")⟩,
      ⟨Watch.calm, .output⟩, ⟨Watch.calm, .event 0 (.reported (.finished {}))⟩, ⟨Watch.calm, .input (.line "\x03\r")⟩]
    let run := (play (begin Watch.calm (Terminal.play { watch := { target := ⟨some ⟨"/p"⟩, some ⟨"w.js"⟩⟩ } } before).1).1
      schedule).1
    run.ending = some .completed ∧ run.written = ["early\r\n", "Build successful\r\n", "late\r\n"] ∧
      run.terminal.watch.isActive = false := by
  intro before schedule run
  obtain ⟨ending, written⟩ := completed_run_has_written_all { target := ⟨some ⟨"/p"⟩, some ⟨"w.js"⟩⟩ } before Watch.calm schedule
  have completed : run.ending = some .completed := ending.trans (by decide +kernel)
  obtain ⟨all, _, idle⟩ := written completed
  exact ⟨completed, all.trans (by decide +kernel), idle⟩

end BuildWatch.TerminalRun
