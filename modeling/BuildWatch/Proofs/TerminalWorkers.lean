import BuildWatch.Proofs.TerminalRuns
import BuildWatch.Proofs.WatchFreshness

/-! The workers of a terminal. They live as the workers of any watch do, and when a run completes, the last one is stopped.
When a run fails, the last one is left as it is. -/

namespace BuildWatch

namespace Watch

/-- A watch that has got where turns would have brought it, with the same milestones on the way. -/
def Follows (watch : Watch) (effects : List Effect) (after : Watch) : Prop :=
  ∃ turns, after = (play watch turns).1 ∧ milestones effects = milestones (play watch turns).2

namespace Follows

theorem refl (watch : Watch) : Follows watch [] watch := ⟨[], rfl, rfl⟩

theorem turn (turn : Turn) (watch : Watch) : Follows watch (turn.perform watch).2 (turn.perform watch).1 :=
  ⟨[turn], rfl, by simp [play]⟩

theorem turns (watch : Watch) (turns : List Turn) : Follows watch (play watch turns).2 (play watch turns).1 :=
  ⟨turns, rfl, rfl⟩

theorem append {first middle last : Watch} {effects later : List Effect} (before : Follows first effects middle)
    (after : Follows middle later last) : Follows first (effects ++ later) last := by
  obtain ⟨turns, rfl, same⟩ := before
  obtain ⟨more, rfl, alike⟩ := after
  exact ⟨turns ++ more, by rw [play_append], by rw [play_append, milestones_append, milestones_append, same, alike]⟩

theorem standing {watch : Watch} {effects : List Effect} (follows : Follows {} effects watch) :
    Standing watch (milestones effects) := by
  obtain ⟨turns, rfl, same⟩ := follows
  rw [same]
  exact standing_kept.run turns

end Follows

/-- How an active watch takes leave of its worker when it stops. -/
def farewell (watch : Watch) : List Milestone :=
  match watch.run with
  | none => []
  | some run => [.asked run.worker .stop, .shutDown run.worker stopGrace, .idle, .disabled]

theorem stop_farewell (surroundings : Surroundings) (watch : Watch) :
    milestones (watch.stop surroundings).2 = watch.farewell := by
  cases active : watch.run with
  | none => simp [stop, farewell, active, milestones]
  | some run => rw [milestones_stop surroundings active, farewell, active]

end Watch

open Watch

theorem Terminal.Turn.perform_follows (turn : Terminal.Turn) {terminal : Terminal} (attended : Attended terminal) :
    Follows terminal.watch (turn.perform terminal).2 (turn.perform terminal).1.watch := by
  obtain ⟨surroundings, operation⟩ := turn
  have closes : Follows terminal.watch (terminal.close surroundings).2 (terminal.close surroundings).1.watch := by
    rw [close_eq attended]
    exact .turn ⟨surroundings, .stop⟩ terminal.watch
  cases operation with
  | start =>
    simp only [perform, start_eq attended]
    exact .turn ⟨surroundings, .start⟩ terminal.watch
  | input data =>
    simp only [perform, input]
    split
    next => exact closes
    next => exact .refl terminal.watch
  | close => exact closes

theorem Terminal.play_follows {terminal : Terminal} (attended : Attended terminal) (turns : List Turn) :
    Follows terminal.watch (play terminal turns).2 (play terminal turns).1.watch := by
  induction turns generalizing terminal with
  | nil => exact .refl terminal.watch
  | cons turn later ih => exact (turn.perform_follows attended).append (ih (turn.perform_attended attended))

namespace TerminalRun

theorem begin_follows {terminal : Terminal} (attended : Terminal.Attended terminal) (surroundings : Surroundings) :
    Follows terminal.watch (begin surroundings terminal).2 (begin surroundings terminal).1.terminal.watch := by
  simp only [begin, Terminal.start_eq attended]
  exact .turn ⟨surroundings, .start⟩ terminal.watch

/-- What completes a run is a stop, as far as workers go. -/
theorem milestones_completion (surroundings : Surroundings) (watch : Watch) :
    milestones ((watch.stop surroundings).2 ++ [disposal]) = milestones (watch.stop surroundings).2 := by
  rw [milestones_append]
  exact List.append_nil _

theorem Step.follows {run after : TerminalRun} {turn : Turn} {effects : List Effect} (step : Step run turn after effects) :
    Follows run.terminal.watch effects after.terminal.watch := by
  cases step with
  | waited | wrote | echoed | failed => exact .refl run.terminal.watch
  | @told surroundings generation event =>
    rw [Terminal.adopt_eq]
    exact .turn ⟨surroundings, .receive generation event⟩ run.terminal.watch
  | completed last nothing stopped =>
    refine ⟨[⟨turn.surroundings, .stop⟩], stopped, ?_⟩
    rw [milestones_completion]
    simp [Watch.play, Watch.Turn.perform]

theorem play_follows (run : TerminalRun) (turns : List Turn) :
    Follows run.terminal.watch (play run turns).2 (play run turns).1.terminal.watch := by
  induction turns generalizing run with
  | nil => exact .refl run.terminal.watch
  | cons turn later ih =>
    cases going : run.ending with
    | none => exact (turn.step going).follows.append (ih _)
    | some reason =>
      have ended : run.ending ≠ none := by simp [going]
      rw [play, turn.perform_ended ended]
      exact ih run

theorem Step.completing {run after : TerminalRun} {turn : Turn} {effects : List Effect} (step : Step run turn after effects)
    (last : turn.ending? = some .completed) : milestones effects = run.terminal.watch.farewell := by
  cases step with
  | completed => rw [milestones_completion, stop_farewell]
  | echoed other => simp [Turn.ending?, other] at last
  | waited | wrote | told | failed => cases last

theorem Step.failing {run after : TerminalRun} {turn : Turn} {effects : List Effect} (step : Step run turn after effects)
    {reason : String} (last : turn.ending? = some (.failed reason)) :
    after = { run with ending := some (.failed reason) } ∧ effects = [] := by
  cases step with
  | failed other =>
    cases last
    exact ⟨rfl, rfl⟩
  | completed closing => cases closing.symm.trans last
  | echoed other => simp [Turn.ending?, other] at last
  | waited | wrote | told => cases last

/-- The whole story of a terminal: its watch has been used by itself, then in the terminal, and then the terminal runs. -/
def conduct (turns : List Watch.Turn) (before : List Terminal.Turn) (surroundings : Surroundings) (schedule : List Turn) :
    TerminalRun × List Effect :=
  let alone := Watch.play {} turns
  let used := Terminal.play { watch := alone.1 } before
  let opened := begin surroundings used.1
  let run := play opened.1 schedule
  (run.1, alone.2 ++ used.2 ++ opened.2 ++ run.2)

section Conduct
variable (turns : List Watch.Turn) (before : List Terminal.Turn) (surroundings : Surroundings)

theorem conduct_follows (schedule : List Turn) :
    Follows {} (conduct turns before surroundings schedule).2 (conduct turns before surroundings schedule).1.terminal.watch := by
  have attended := Terminal.attended_new (Watch.play {} turns).1
  have used := Terminal.play_follows attended before
  have opened := begin_follows (Terminal.play_attended attended before) surroundings
  exact (((Follows.turns {} turns).append used).append opened).append (play_follows _ schedule)

theorem conduct_append (earlier later : List Turn) :
    conduct turns before surroundings (earlier ++ later) =
      ((play (conduct turns before surroundings earlier).1 later).1,
        (conduct turns before surroundings earlier).2 ++ (play (conduct turns before surroundings earlier).1 later).2) := by
  simp [conduct, play_append]

theorem conduct_ending (schedule : List Turn) :
    (conduct turns before surroundings schedule).1.ending = schedule.findSome? Turn.ending? := play_ending rfl schedule

theorem conduct_settled (schedule : List Turn) : Settled (conduct turns before surroundings schedule).1 :=
  play_settled (fun completed => by cases completed) schedule

end Conduct

/-- After a run that has completed, the watch is idle and all workers it ever launched have lived their whole lives; what
completes the run asks a worker that is still there to stop, shuts it down with the grace period and tells observers. A run
that fails does nothing at all on that turn: a worker that is there stays there, and its life is not finished. -/
theorem run_releases_worker_unless_failed (turns : List Watch.Turn) (before : List Terminal.Turn)
    (surroundings : Surroundings) (schedule : List Turn) :
    let ended := conduct turns before surroundings schedule
    ended.1.ending = schedule.findSome? Turn.ending? ∧
    (ended.1.ending = some .completed →
      ended.1.terminal.watch.isActive = false ∧ Lives ended.1.terminal.watch.launches (milestones ended.2)) ∧
    ∀ earlier turn later, schedule = earlier ++ turn :: later →
      let going := conduct turns before surroundings earlier
      going.1.ending = none →
      (turn.ending? = some .completed → milestones (turn.perform going.1).2 = going.1.terminal.watch.farewell) ∧
      ∀ reason, turn.ending? = some (.failed reason) →
        ended = ({ going.1 with ending := some (.failed reason) }, going.2) ∧
        ∀ run, going.1.terminal.watch.run = some run →
          ∃ past current, milestones ended.2 = past ++ current ∧ Lives run.worker past ∧ Unfinished run.worker current := by
  intro ended
  have standing := (conduct_follows turns before surroundings schedule).standing
  refine ⟨conduct_ending turns before surroundings schedule, fun completed => ?_, ?_⟩
  · obtain ⟨_, idle⟩ := conduct_settled turns before surroundings schedule completed
    unfold Standing at standing
    rw [idle] at standing
    exact ⟨by simp [ended, isActive, idle], standing⟩
  · rintro earlier turn later rfl going alive
    have step := turn.step alive
    refine ⟨fun last => step.completing last, fun reason last => ?_⟩
    obtain ⟨left, silent⟩ := step.failing last
    have same : ended = ({ going.1 with ending := some (.failed reason) }, going.2) := by
      simp only [ended, conduct_append, play]
      rw [left, silent, play_ended (by simp)]
      simp [going]
    refine ⟨same, fun run active => ?_⟩
    have unfinished : Standing going.1.terminal.watch (milestones ended.2) := by
      rw [same]
      exact (conduct_follows turns before surroundings earlier).standing
    unfold Standing at unfinished
    rw [active] at unfinished
    exact unfinished.2

/-- A line that is no text ends the run beside a worker that has been told nothing and is still there. -/
theorem unreadable_line_leaves_worker :
    let ended := conduct [⟨calm, .configure ⟨.set ⟨"/p"⟩, .set ⟨"w.js"⟩⟩⟩] [] calm
      [⟨calm, .input (.line "ok")⟩, ⟨calm, .input (.unreadable "incomplete utf-8 byte sequence from index 1")⟩]
    ended.1.ending = some (.failed "incomplete utf-8 byte sequence from index 1") ∧
      ended.1.terminal.watch.isActive = true ∧
      milestones ended.2 = [.launched 0 ⟨"/p"⟩, .asked 0 (.start ⟨"/p"⟩ ⟨"w.js"⟩), .enabled] := by
  decide +kernel

end TerminalRun

end BuildWatch
