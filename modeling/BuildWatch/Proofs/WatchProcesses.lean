import BuildWatch.Link
import BuildWatch.Proofs.ChildShutdown
import BuildWatch.Proofs.WatchFreshness

/-! A watch and the processes of its workers. They go on as they like while the effects of the watch are carried out, and
to shut one down is to wait until its monitor has made its report. So when a stop is over, the exit of the worker is
already queued for the watch, under the generation of that worker. -/

namespace BuildWatch.Watch

/-- The process of a worker: the generation that its events bear, and what has happened to it. -/
structure WorkerProcess where
  generation : UInt64
  history : List ChildEvent := []

namespace WorkerProcess

def child (process : WorkerProcess) : Child := (Child.play {} process.history).1

/-- The events of the process that have been queued for the watch. -/
def queued (process : WorkerProcess) : List (UInt64 × WorkerEvent) :=
  ((Child.play {} process.history).2.filterMap Link.event?).map fun event => (process.generation, event)

def meets (event : ChildEvent) (process : WorkerProcess) : WorkerProcess :=
  { process with history := process.history ++ [event] }

end WorkerProcess

/-- An event at the process of a worker. -/
def happen (processes : List WorkerProcess) (event : Nat × ChildEvent) : List WorkerProcess :=
  processes.modify event.1 (WorkerProcess.meets event.2)

/-- Whether an effect starts or ends a process. -/
def isVital : Effect → Bool
  | .launch .. | .shutDown .. => true
  | _ => false

/-- Effects are carried out one after the other, and meanwhile anything may happen to the processes. A shutdown is carried
out when it has returned. -/
inductive Carried : List WorkerProcess → List Effect → List WorkerProcess → Prop where
  | done (processes : List WorkerProcess) : Carried processes [] processes
  | meanwhile {processes after : List WorkerProcess} {effects : List Effect} (event : Nat × ChildEvent)
      (rest : Carried (happen processes event) effects after) : Carried processes effects after
  | launched {processes after : List WorkerProcess} {effects : List Effect} {worker : Nat} {generation : UInt64}
      {directory : Path} (rest : Carried (processes ++ [⟨generation, []⟩]) effects after) :
      Carried processes (.launch worker generation directory :: effects) after
  | shutDown {processes after : List WorkerProcess} {effects : List Effect} {worker graceMillis : Nat}
      (events : List (Nat × ChildEvent)) (process : WorkerProcess)
      (present : (((worker, .shutDown) :: events).foldl happen processes)[worker]? = some process)
      (returned : process.child.shutDownReturned = true)
      (rest : Carried (((worker, .shutDown) :: events).foldl happen processes) effects after) :
      Carried processes (.shutDown worker graceMillis :: effects) after
  | passed {processes after : List WorkerProcess} {effects : List Effect} {effect : Effect} (plain : isVital effect = false)
      (rest : Carried processes effects after) : Carried processes (effect :: effects) after

/-- The generations that launches have given away. -/
def generations (effects : List Effect) : List UInt64 :=
  effects.filterMap fun
    | .launch _ generation _ => some generation
    | _ => none

/-! ### Processes -/

theorem happen_generations (processes : List WorkerProcess) (event : Nat × ChildEvent) :
    (happen processes event).map WorkerProcess.generation = processes.map WorkerProcess.generation := by
  apply List.ext_getElem?
  intro index
  simp only [happen, List.getElem?_map, List.getElem?_modify]
  cases processes[index]? with
  | none => rfl
  | some process => split <;> rfl

theorem happens_generations (processes : List WorkerProcess) (events : List (Nat × ChildEvent)) :
    (events.foldl happen processes).map WorkerProcess.generation = processes.map WorkerProcess.generation := by
  induction events generalizing processes with
  | nil => rfl
  | cons event events ih => exact (ih (happen processes event)).trans (happen_generations processes event)

theorem generations_launch (worker : Nat) (generation : UInt64) (directory : Path) (effects : List Effect) :
    generations (.launch worker generation directory :: effects) = generation :: generations effects := rfl

theorem generations_append (first second : List Effect) :
    generations (first ++ second) = generations first ++ generations second :=
  List.filterMap_append

namespace Carried
variable {processes after : List WorkerProcess} {effects : List Effect}

/-- The processes are those that were there and those that have been launched. -/
theorem generations_after (carried : Carried processes effects after) :
    after.map WorkerProcess.generation = processes.map WorkerProcess.generation ++ generations effects := by
  induction carried with
  | done processes => exact (List.append_nil _).symm
  | meanwhile event _ ih => rw [ih, happen_generations]
  | launched _ ih => simp [ih, generations_launch]
  | shutDown events process _ _ _ ih =>
    rw [ih, happens_generations]
    rfl
  | @passed _ _ _ effect plain _ ih =>
    rw [ih]
    cases effect with
    | launch => cases plain
    | _ => rfl

end Carried

/-- A process whose shutdown has returned. -/
def IsShutDown (processes : List WorkerProcess) (worker : Nat) : Prop :=
  ∃ process, processes[worker]? = some process ∧ process.child.shutDownReturned = true

theorem IsShutDown.happen {processes : List WorkerProcess} {worker : Nat} (down : IsShutDown processes worker)
    (event : Nat × ChildEvent) : IsShutDown (happen processes event) worker := by
  obtain ⟨process, present, returned⟩ := down
  by_cases own : event.1 = worker
  · refine ⟨process.meets event.2, by simp [Watch.happen, own, present], ?_⟩
    simp only [Child.shutDownReturned, Bool.and_eq_true, decide_eq_true_eq] at returned
    have step := process.child.step_steps event.2
    have after : (process.meets event.2).child = (process.child.step event.2).1 := by
      simp [WorkerProcess.child, WorkerProcess.meets, Child.play_snoc]
    rw [after]
    simp [Child.shutDownReturned, step.hold_kept (by simp [returned.1]), returned.1, step.reported_stays returned.2]
  · exact ⟨process, by simp [Watch.happen, own, present], returned⟩

theorem IsShutDown.append {processes : List WorkerProcess} {worker : Nat} (down : IsShutDown processes worker)
    (more : List WorkerProcess) : IsShutDown (processes ++ more) worker := by
  obtain ⟨process, present, returned⟩ := down
  obtain ⟨within, _⟩ := List.getElem?_eq_some_iff.mp present
  exact ⟨process, (List.getElem?_append_left within).trans present, returned⟩

theorem IsShutDown.happens {processes : List WorkerProcess} {worker : Nat} (down : IsShutDown processes worker)
    (events : List (Nat × ChildEvent)) : IsShutDown (events.foldl Watch.happen processes) worker := by
  induction events generalizing processes with
  | nil => exact down
  | cons event events ih => exact ih (down.happen event)

theorem IsShutDown.carried {processes after : List WorkerProcess} {effects : List Effect} {worker : Nat}
    (down : IsShutDown processes worker) (carried : Carried processes effects after) : IsShutDown after worker := by
  induction carried with
  | done => exact down
  | meanwhile event _ ih => exact ih (down.happen event)
  | launched _ ih => exact ih (down.append _)
  | shutDown events _ _ _ _ ih => exact ih (down.happens _)
  | passed _ _ ih => exact ih down

/-- When the effects have been carried out, the shutdowns among them have returned. -/
theorem Carried.shutDown_returned {processes after : List WorkerProcess} {effects : List Effect} {worker graceMillis : Nat}
    (carried : Carried processes effects after) (member : .shutDown worker graceMillis ∈ effects) :
    IsShutDown after worker := by
  induction carried with
  | done => cases member
  | meanwhile _ _ ih => exact ih member
  | launched _ ih =>
    rcases List.mem_cons.mp member with same | later
    · cases same
    · exact ih later
  | shutDown events process present returned rest ih =>
    rcases List.mem_cons.mp member with same | later
    · cases same
      exact IsShutDown.carried ⟨process, present, returned⟩ rest
    · exact ih later
  | passed plain _ ih =>
    rcases List.mem_cons.mp member with rfl | later
    · cases plain
    · exact ih later

/-! ### Generations -/

/-- A move launches nothing, or one worker with the next generation. -/
theorem Move.generations_cases {surroundings : Surroundings} {watch after : Watch} {attempted : Nat} {effects : List Effect}
    (move : Move surroundings watch attempted effects after) :
    (after.run = watch.run ∨ after.run = none) ∧ after.launches = watch.launches ∧ generations effects = [] ∨
      ∃ directory, after.run = some ⟨watch.launches, watch.nextGeneration, directory⟩ ∧
        after.launches = watch.launches + 1 ∧ generations effects = [watch.nextGeneration] := by
  have quiet (same : after.launches = watch.launches) : generations effects = [] := by
    apply List.filterMap_eq_nil_iff.mpr
    intro effect member
    cases effect with
    | launch worker generation directory =>
      obtain ⟨_, rfl, _, rfl⟩ := move.launch_mem member
      simp at same
    | _ => rfl
  rcases move.run_cases with ⟨run, launches⟩ | ⟨run, launches⟩ | ⟨directory, run, launches, _⟩
  · exact .inl ⟨.inl run, launches, quiet launches⟩
  · exact .inl ⟨.inr run, launches, quiet launches⟩
  · refine .inr ⟨directory, run, launches, ?_⟩
    cases move with
    | launched directory file =>
      unfold launchEffects
      cases surroundings.sendFailure (.start directory file) <;> rfl
    | stopped | lost => cases run
    | reported run report => simp [onReport_launches] at launches
    | _ => simp at launches

/-- The workers are numbered as they were launched, and the present one has the generation it was launched with. -/
def Enrolled (past : List Effect) (watch : Watch) : Prop :=
  (generations past).length = watch.launches ∧
    ∀ run, watch.run = some run → (generations past)[run.worker]? = some run.generation

theorem enrolled_kept : Kept fun _ past watch => Enrolled past watch where
  initial := ⟨rfl, fun _ active => nomatch active⟩
  move := by
    intro surroundings attempted past watch more effects after enrolled move
    obtain ⟨count, present⟩ := enrolled
    unfold Enrolled
    rw [generations_append]
    rcases move.generations_cases with ⟨run, launches, quiet⟩ | ⟨directory, run, launches, launched⟩
    · rw [quiet, List.append_nil, launches]
      refine ⟨count, fun other active => ?_⟩
      rcases run with same | idle
      · exact present other (same ▸ active)
      · cases idle.symm.trans active
    · rw [launched, launches]
      refine ⟨by simp [count], fun other active => ?_⟩
      cases run.symm.trans active
      simp [← count]

theorem exited_queued {process : WorkerProcess} {code : Option Int} (told : .exited code ∈ (Child.play {} process.history).2) :
    (process.generation, .exited code) ∈ process.queued :=
  List.mem_map.mpr ⟨.exited code, List.mem_filterMap.mpr ⟨_, told, rfl⟩, rfl⟩

/-- The monitor of a child makes one report in a life, and nobody is killed but who outlives the grace or the holder. When
a shutdown has returned, the report has been made, and it is the exit of the process unless nobody could wait for that. If
the monitor and the clocks get their turns, a process that ends or is let go of is reported exactly once, and a shutdown
returns. So when the stop of a watch has been carried out, its worker has exited, and its exit has been queued under the
generation of that worker. -/
theorem stop_returns_behind_exit :
    (∀ events, let seen := Child.play {} events
      (seen.1.stage ≠ .reported → ∀ output ∈ seen.2, ¬ Child.IsReport output) ∧
      (seen.1.stage = .reported → Child.ReportedOnce seen.1.report seen.2) ∧
      (seen.1.shutDownReturned = true → Child.ReportedOnce seen.1.report seen.2 ∧
        (seen.1.waitFailure = none → ∃ code, seen.1.exit = some code ∧ seen.1.report = .exited code)) ∧
      (seen.1.killed = true → Child.Condemned events)) ∧
    (∀ schedule, Child.WeaklyFair schedule →
      (Child.ComesToEnd schedule → ∃! time, ∃ output ∈ Child.saidAt schedule time, Child.IsReport output) ∧
      ∀ time, (Child.stateAt schedule time).hold = .shuttingDown →
        ∃ later, time ≤ later ∧ (Child.stateAt schedule later).shutDownReturned = true) ∧
    ∀ turns surroundings run processes after, (play {} turns).1.run = some run → Carried [] (play {} turns).2 processes →
      Carried processes ((play {} turns).1.stop surroundings).2 after →
      ∃ process, after[run.worker]? = some process ∧ process.generation = run.generation ∧
        process.child.shutDownReturned = true ∧
        (process.child.waitFailure = none →
          ∃ code, process.child.exit = some code ∧ (run.generation, .exited code) ∈ process.queued) := by
  have settled (events : List ChildEvent) (returned : (Child.play {} events).1.shutDownReturned = true) :
      Child.ReportedOnce (Child.play {} events).1.report (Child.play {} events).2 ∧
        ((Child.play {} events).1.waitFailure = none → ∃ code, (Child.play {} events).1.exit = some code ∧
          (Child.play {} events).1.report = .exited code) := by
    simp only [Child.shutDownReturned, Bool.and_eq_true, decide_eq_true_eq] at returned
    refine ⟨(Child.reportedOnce_play events).2 returned.2, ?_⟩
    exact Child.report_of_exit (Child.sound_play events) (by simp [returned.2])
  refine ⟨fun events => ?_, fun schedule fair => ?_, ?_⟩
  · obtain ⟨before, once⟩ := Child.reportedOnce_play events
    exact ⟨before, once, settled events, Child.condemned_of_killed events⟩
  · exact ⟨fair.reports_once, fun _ => fair.shutdown_returns⟩
  · intro turns surroundings run processes after active earlier carried
    have asked : .shutDown run.worker stopGrace ∈ ((play {} turns).1.stop surroundings).2 := by
      simp [stop, active]
    obtain ⟨process, present, returned⟩ := carried.shutDown_returned asked
    have enrolled := (enrolled_kept.run turns).2 run active
    have generation : process.generation = run.generation := by
      have same : (after.map WorkerProcess.generation)[run.worker]? = some run.generation := by
        obtain ⟨within, _⟩ := List.getElem?_eq_some_iff.mp enrolled
        rw [carried.generations_after, earlier.generations_after]
        exact (List.getElem?_append_left within).trans enrolled
      simpa [present] using same
    refine ⟨process, present, generation, returned, fun success => ?_⟩
    obtain ⟨⟨_, before, rest, said, _⟩, exit⟩ := settled process.history returned
    obtain ⟨code, gone, report⟩ := exit success
    refine ⟨code, gone, ?_⟩
    rw [← generation]
    apply exited_queued
    rw [said, report]
    simp

/-- A process that has ended by itself, and whose readers and monitor were through before it was shut down. -/
def crashHistory : List ChildEvent :=
  [.line .error "boom", .ended (some 1), .streamEnded .output, .streamEnded .error, .monitor, .monitor, .monitor, .shutDown]

/-- A process that does not mind being asked to stop, with streams that somebody else holds. -/
def killHistory : List ChildEvent := [.shutDown, .graceExpired, .monitor, .drainExpired, .drainExpired]

def killSchedule (time : Nat) : ChildEvent := killHistory.getD time .monitor

theorem killSchedule_fair : Child.WeaklyFair killSchedule := by
  -- nobody waits for ever, since the report has been made
  have reported : (Child.stateAt killSchedule 5).stage = .reported := by decide
  have past (time : Nat) : ∃ later, time ≤ later ∧ (Child.stateAt killSchedule later).stage = .reported :=
    ⟨max time 5, Nat.le_max_left time 5, Child.stays_reported reported _ (Nat.le_max_right time 5)⟩
  constructor
  · intro time waits
    obtain ⟨later, after, stage⟩ := past time
    cases stage.symm.trans (waits later after).1
  · intro time stream waits
    obtain ⟨later, after, stage⟩ := past time
    cases stage.symm.trans (waits later after)
  · intro time waits
    obtain ⟨later, after, stage⟩ := past time
    exact absurd stage (waits later after).2

theorem killed_successor_is_queued :
    (∃! time, ∃ output ∈ Child.saidAt killSchedule time, Child.IsReport output) ∧
      Carried [] (play {} replacement).2 [⟨0, crashHistory⟩, ⟨1, []⟩] ∧
      Carried [⟨0, crashHistory⟩, ⟨1, []⟩] ((play {} replacement).1.stop calm).2 [⟨0, crashHistory⟩, ⟨1, killHistory⟩] ∧
      ∃ code, (1, .exited code) ∈ (⟨1, killHistory⟩ : WorkerProcess).queued := by
  have earlier : Carried [] (play {} replacement).2 [⟨0, crashHistory⟩, ⟨1, []⟩] := by
    refine .passed rfl (.launched (.passed rfl (.passed rfl (.passed rfl (.passed rfl ?_)))))
    refine .meanwhile (0, .line .error "boom") (.meanwhile (0, .ended (some 1)) ?_)
    refine .meanwhile (0, .streamEnded .output) (.meanwhile (0, .streamEnded .error) ?_)
    refine .meanwhile (0, .monitor) (.meanwhile (0, .monitor) (.meanwhile (0, .monitor) ?_))
    refine .shutDown [] ⟨0, crashHistory⟩ rfl (by decide) (.passed rfl (.passed rfl ?_))
    exact .launched (.passed rfl (.passed rfl (.passed rfl (.done _))))
  have stopping : Carried [⟨0, crashHistory⟩, ⟨1, []⟩] ((play {} replacement).1.stop calm).2
      [⟨0, crashHistory⟩, ⟨1, killHistory⟩] := by
    refine .passed rfl (.passed rfl ?_)
    refine .shutDown [(1, .graceExpired), (1, .monitor), (1, .drainExpired), (1, .drainExpired)] ⟨1, killHistory⟩ rfl
      (by decide) ?_
    exact .passed rfl (.passed rfl (.passed rfl (.done _)))
  have ends : Child.ComesToEnd killSchedule := ⟨1, .inr (by decide)⟩
  refine ⟨(stop_returns_behind_exit.2.1 killSchedule killSchedule_fair).1 ends, earlier, stopping, ?_⟩
  obtain ⟨process, present, _, _, queued⟩ := stop_returns_behind_exit.2.2 replacement calm ⟨1, 1, ⟨"/p"⟩⟩ _ _ rfl earlier stopping
  cases present
  obtain ⟨code, _, member⟩ := queued rfl
  exact ⟨code, member⟩

end BuildWatch.Watch
