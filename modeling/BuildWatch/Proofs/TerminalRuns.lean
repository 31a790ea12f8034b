import BuildWatch.Terminal
import BuildWatch.Proofs.WatchSessions

/-! Runs of a terminal. A terminal does nothing to its watch that turns of the watch do not do, so its workers live as those
of any watch. It has one observer from its opening to its closing, however often it is opened. -/

namespace BuildWatch

namespace Terminal

inductive Operation where
  | start
  | input (data : String)
  | close

/-- What is done with a terminal that does not run yet, with the surroundings it finds. -/
structure Turn where
  surroundings : Surroundings
  operation : Operation

def Turn.perform (turn : Turn) (terminal : Terminal) : Terminal × List Effect :=
  match turn.operation with
  | .start => terminal.start turn.surroundings
  | .input data => ((terminal.input turn.surroundings data).1, (terminal.input turn.surroundings data).2.1)
  | .close => terminal.close turn.surroundings

/-- The terminal after some turns, and all effects on the way. -/
def play (terminal : Terminal) : List Turn → Terminal × List Effect
  | [] => (terminal, [])
  | turn :: later =>
    let rest := play (turn.perform terminal).1 later
    (rest.1, (turn.perform terminal).2 ++ rest.2)

end Terminal

namespace TerminalRun

/-- A wakeup with the surroundings it finds. -/
structure Turn where
  surroundings : Surroundings
  wakeup : Wakeup

def Turn.perform (turn : Turn) (run : TerminalRun) : TerminalRun × List Effect := run.step turn.surroundings turn.wakeup

/-- The run after some turns, and all effects on the way. -/
def play (run : TerminalRun) : List Turn → TerminalRun × List Effect
  | [] => (run, [])
  | turn :: later =>
    let rest := play (turn.perform run).1 later
    (rest.1, (turn.perform run).2 ++ rest.2)

def Turn.ending? (turn : Turn) : Option RunEnd :=
  match turn.wakeup with
  | .input (.line text) => if isInterruptLine text then some .completed else none
  | .input .finished => some .completed
  | .input (.unreadable reason) => some (.failed reason)
  | _ => none

end TerminalRun

/-! ### Results -/

def announcement? : Effect → Option String
  | .statusChanged .success => some "Build successful\r\n"
  | .statusChanged .failure => some "Build failed\r\n"
  | _ => none

def announcements (effects : List Effect) : List String := effects.filterMap announcement?

namespace Watch

theorem start_announcements (surroundings : Surroundings) (watch : Watch) :
    announcements (watch.start surroundings).2 = [] := by
  unfold start
  split
  next => rfl
  next =>
    split
    next reason _ => cases reason <;> rfl
    next =>
      dsimp only
      split
      next => rfl
      next => cases surroundings.sendFailure _ <;> rfl

theorem stop_announcements (surroundings : Surroundings) (watch : Watch) :
    announcements (watch.stop surroundings).2 = [] := by
  unfold stop
  split
  next => rfl
  next => cases surroundings.sendFailure .stop <;> rfl

end Watch

namespace Terminal

theorem notice_eq (terminal : Terminal) (effect : Effect) :
    terminal.notice effect =
      { terminal with
        pending := terminal.pending ++ (announcement? effect).toList.flatMap fun line => terminal.observers.called.map fun _ => line } := by
  cases effect with
  | statusChanged status => cases status <;> simp [notice, resultLine?, announcement?]
  | _ => simp [notice, announcement?]

theorem foldl_notice (terminal : Terminal) (effects : List Effect) :
    effects.foldl notice terminal =
      { terminal with
        pending := terminal.pending ++ (announcements effects).flatMap fun line => terminal.observers.called.map fun _ => line } := by
  induction effects generalizing terminal with
  | nil => simp [announcements]
  | cons effect later ih =>
    rw [List.foldl_cons, ih, notice_eq]
    cases told : announcement? effect <;> simp [announcements, told]

/-- Every observer writes a line for every result. -/
theorem adopt_eq (terminal : Terminal) (result : Watch × List Effect) :
    terminal.adopt result =
      ({ terminal with
          watch := result.1
          pending := terminal.pending ++
            (announcements result.2).flatMap fun line => terminal.observers.called.map fun _ => line },
        result.2) := by
  simp only [adopt, foldl_notice]

theorem adopt_silent (terminal : Terminal) {result : Watch × List Effect} (silent : announcements result.2 = []) :
    terminal.adopt result = ({ terminal with watch := result.1 }, result.2) := by
  simp [adopt_eq, silent]

theorem adopt_heard {terminal : Terminal} (heard : terminal.observers.called = [()]) (result : Watch × List Effect) :
    terminal.adopt result =
      ({ terminal with watch := result.1, pending := terminal.pending ++ announcements result.2 }, result.2) := by
  simp [adopt_eq, heard]

/-! ### Observers -/

/-- The only observer of a terminal is the one it holds a subscription for. -/
structure Attended (terminal : Terminal) : Prop where
  handlers : terminal.observers.handlers = terminal.subscription.toList.map fun number => (number, ())
  known : terminal.subscription ≠ some terminal.observers.nextNumber

theorem attended_new (watch : Watch) : Attended { watch } := ⟨rfl, nofun⟩

/-- A terminal is opened with one observer, whether it had one before or not. -/
theorem start_eq {terminal : Terminal} (attended : Attended terminal) (surroundings : Surroundings) :
    terminal.start surroundings =
      ({ terminal with
          watch := (terminal.watch.start surroundings).1
          observers := ⟨terminal.observers.nextNumber + 1, [(terminal.observers.nextNumber, ())]⟩
          subscription := some terminal.observers.nextNumber },
        (terminal.watch.start surroundings).2) := by
  obtain ⟨watch, ⟨next, handlers⟩, subscription, pending⟩ := terminal
  cases subscription with
  | none =>
    obtain rfl : handlers = [] := attended.handlers
    exact adopt_silent _ (Watch.start_announcements surroundings watch)
  | some number =>
    obtain rfl : handlers = [(number, ())] := attended.handlers
    -- The new observer subscribes before the old one is released, and it is the old number that goes.
    have older : number ≠ next := fun same => attended.known (congrArg some same)
    have renewed : (start surroundings ⟨watch, ⟨next, [(number, ())]⟩, some number, pending⟩) =
        adopt ⟨watch, ⟨next + 1, [(next, ())]⟩, some next, pending⟩ (watch.start surroundings) := by
      simp [start, Observers.subscribe, releaseSubscription, Observers.release, older.symm]
    exact renewed.trans (adopt_silent _ (Watch.start_announcements surroundings watch))

theorem close_eq {terminal : Terminal} (attended : Attended terminal) (surroundings : Surroundings) :
    terminal.close surroundings =
      ({ terminal with
          watch := (terminal.watch.stop surroundings).1
          observers := ⟨terminal.observers.nextNumber, []⟩
          subscription := none },
        (terminal.watch.stop surroundings).2) := by
  obtain ⟨watch, ⟨next, handlers⟩, subscription, pending⟩ := terminal
  simp only [close, adopt_silent _ (Watch.stop_announcements surroundings watch)]
  cases subscription with
  | none =>
    obtain rfl : handlers = [] := attended.handlers
    rfl
  | some number =>
    obtain rfl : handlers = [(number, ())] := attended.handlers
    simp [releaseSubscription, Observers.release]

/-- The echo of input that is not the interrupt. -/
def Turn.echoed (turn : Turn) : List String :=
  match turn.operation with
  | .input data => if data = interrupt then [] else [echo data]
  | _ => []

theorem Turn.perform_attended (turn : Turn) {terminal : Terminal} (attended : Attended terminal) :
    Attended (turn.perform terminal).1 := by
  obtain ⟨surroundings, operation⟩ := turn
  have closed : Attended (terminal.close surroundings).1 := by
    rw [close_eq attended]
    exact ⟨rfl, nofun⟩
  cases operation with
  | start =>
    simp only [Turn.perform, start_eq attended]
    exact ⟨rfl, fun same => by simpa using Option.some.inj same⟩
  | input data =>
    simp only [Turn.perform, input]
    split
    next => exact closed
    next => exact ⟨attended.handlers, attended.known⟩
  | close => exact closed

theorem Turn.perform_pending (turn : Turn) {terminal : Terminal} (attended : Attended terminal) :
    (turn.perform terminal).1.pending = terminal.pending ++ turn.echoed := by
  obtain ⟨surroundings, operation⟩ := turn
  cases operation with
  | start => simp [Turn.perform, start_eq attended, Turn.echoed]
  | input data =>
    simp only [Turn.perform, input, Turn.echoed]
    split
    next => simp [close_eq attended]
    next => rfl
  | close => simp [Turn.perform, close_eq attended, Turn.echoed]

theorem play_attended {terminal : Terminal} (attended : Attended terminal) (turns : List Turn) :
    Attended (play terminal turns).1 := by
  induction turns generalizing terminal with
  | nil => exact attended
  | cons turn later ih => exact ih (turn.perform_attended attended)

theorem play_pending {terminal : Terminal} (attended : Attended terminal) (turns : List Turn) :
    (play terminal turns).1.pending = terminal.pending ++ turns.flatMap Turn.echoed := by
  induction turns generalizing terminal with
  | nil => simp [play]
  | cons turn later ih =>
    rw [play, ih (turn.perform_attended attended), turn.perform_pending attended, List.flatMap_cons, List.append_assoc]

/-- A terminal closes without a word. -/
theorem close_silent (surroundings : Surroundings) (terminal : Terminal) :
    (terminal.close surroundings).1.watch = (terminal.watch.stop surroundings).1 ∧
      (terminal.close surroundings).1.pending = terminal.pending ∧
      (terminal.close surroundings).2 = (terminal.watch.stop surroundings).2 := by
  simp only [close, adopt_silent _ (Watch.stop_announcements surroundings terminal.watch)]
  cases terminal.subscription <;> simp [releaseSubscription]

end Terminal

namespace Watch

theorem stop_twice (surroundings : Surroundings) (watch : Watch) :
    (watch.stop surroundings).1.stop surroundings = ((watch.stop surroundings).1, []) := by
  have idle := stop_idle surroundings watch
  generalize (watch.stop surroundings).1 = after at idle ⊢
  simp [stop, idle]

def disposal : Effect := .note (.of .debug "disposing build supervisor")

theorem dispose_stopped (surroundings : Surroundings) (watch : Watch) :
    (watch.stop surroundings).1.dispose surroundings = ((watch.stop surroundings).1, [disposal]) := by
  simp only [dispose, stop_twice, disposal]

end Watch

namespace TerminalRun

/-! ### Turns of a run -/

/-- What a turn does to a run that is going on. -/
inductive Step (run : TerminalRun) : Turn → TerminalRun → List Effect → Prop where
  | waited {surroundings : Surroundings} (nothing : run.terminal.pending = []) : Step run ⟨surroundings, .output⟩ run []
  | wrote {surroundings : Surroundings} {text : String} {rest : List String} (next : run.terminal.pending = text :: rest) :
      Step run ⟨surroundings, .output⟩
        { run with terminal := { run.terminal with pending := rest }, written := run.written ++ [text] } []
  | told {surroundings : Surroundings} (generation : UInt64) (event : WorkerEvent) :
      Step run ⟨surroundings, .event generation event⟩
        { run with terminal := (run.terminal.adopt (run.terminal.watch.receive generation event)).1 }
        (run.terminal.watch.receive generation event).2
  | echoed {surroundings : Surroundings} {text : String} (other : isInterruptLine text = false) :
      Step run ⟨surroundings, .input (.line text)⟩
        { run with terminal := run.terminal.write (Terminal.echo (text ++ "\n")) } []
  | completed {turn : Turn} {terminal : Terminal} (last : turn.ending? = some .completed) (nothing : terminal.pending = [])
      (stopped : terminal.watch = (run.terminal.watch.stop turn.surroundings).1) :
      Step run turn ⟨terminal, run.written ++ run.terminal.pending, some .completed⟩
        ((run.terminal.watch.stop turn.surroundings).2 ++ [Watch.disposal])
  | failed {surroundings : Surroundings} (reason : String) :
      Step run ⟨surroundings, .input (.unreadable reason)⟩ { run with ending := some (.failed reason) } []

theorem line_ne_interrupt (text : String) : text ++ "\n" ≠ Terminal.interrupt := by
  intro same
  have ends := congrArg (fun data => data.toList.getLast?) same
  simp [Terminal.interrupt] at ends

/-- A run that closes writes all that is pending. -/
theorem closing_step (run : TerminalRun) {turn : Turn} (last : turn.ending? = some .completed) :
    Step run turn
      (run.afterInput turn.surroundings ((run.terminal.close turn.surroundings).1, (run.terminal.close turn.surroundings).2, false)).1
      (run.afterInput turn.surroundings ((run.terminal.close turn.surroundings).1, (run.terminal.close turn.surroundings).2, false)).2 := by
  obtain ⟨stopped, pending, effects⟩ := run.terminal.close_silent turn.surroundings
  have silent : announcements ((run.terminal.close turn.surroundings).1.watch.dispose turn.surroundings).2 = [] := by
    rw [stopped, Watch.dispose_stopped]
    rfl
  simp only [afterInput, Bool.false_eq_true, if_false, complete, Terminal.adopt_silent _ silent, pending, effects]
  rw [stopped, Watch.dispose_stopped]
  exact .completed last rfl rfl

theorem Turn.step (turn : Turn) {run : TerminalRun} (going : run.ending = none) :
    Step run turn (turn.perform run).1 (turn.perform run).2 := by
  obtain ⟨surroundings, wakeup⟩ := turn
  have running : run.ending.isSome = false := by rw [going]; rfl
  simp only [Turn.perform, TerminalRun.step, running, Bool.false_eq_true, if_false]
  cases wakeup with
  | output =>
    cases next : run.terminal.pending with
    | nil => exact .waited next
    | cons text rest => exact .wrote next
  | event generation event => exact .told generation event
  | input event =>
    cases event with
    | line text =>
      cases interrupt : isInterruptLine text with
      | true =>
        simp only [onInput, interrupt, if_true, Terminal.input]
        exact run.closing_step (by simp [Turn.ending?, interrupt])
      | false =>
        simp only [onInput, interrupt, Bool.false_eq_true, if_false, Terminal.input, line_ne_interrupt, afterInput, if_true]
        exact .echoed interrupt
    | finished => exact run.closing_step rfl
    | unreadable reason => exact .failed reason

theorem Step.ending {run after : TerminalRun} {turn : Turn} {effects : List Effect} (step : Step run turn after effects)
    (going : run.ending = none) : after.ending = turn.ending? := by
  cases step with
  | waited => exact going
  | wrote | told => exact going
  | echoed other => simp [Turn.ending?, other, going]
  | completed last => exact last.symm
  | failed reason => rfl

theorem play_append (run : TerminalRun) (earlier later : List Turn) :
    play run (earlier ++ later) =
      ((play (play run earlier).1 later).1, (play run earlier).2 ++ (play (play run earlier).1 later).2) := by
  induction earlier generalizing run with
  | nil => rfl
  | cons turn earlier ih => simp [play, ih]

theorem Turn.perform_ended (turn : Turn) {run : TerminalRun} (ended : run.ending ≠ none) : turn.perform run = (run, []) :=
  if_pos (Option.isSome_iff_ne_none.mpr ended)

theorem play_ended {run : TerminalRun} (ended : run.ending ≠ none) (turns : List Turn) : play run turns = (run, []) := by
  induction turns with
  | nil => rfl
  | cons turn later ih => simp [play, turn.perform_ended ended, ih]

/-- A run ends with the first turn that ends it. -/
theorem play_ending {run : TerminalRun} (going : run.ending = none) (turns : List Turn) :
    (play run turns).1.ending = turns.findSome? Turn.ending? := by
  induction turns generalizing run with
  | nil => exact going
  | cons turn later ih =>
    have ending := (turn.step going).ending going
    rw [List.findSome?_cons]
    cases last : turn.ending? with
    | none => exact ih (ending.trans last)
    | some reason =>
      have ended : (turn.perform run).1.ending ≠ none := by simp [ending, last]
      simp only [play, play_ended ended]
      exact ending.trans last

/-- Where a run has completed, nothing is pending and nobody works. -/
def Settled (run : TerminalRun) : Prop :=
  run.ending = some .completed → run.terminal.pending = [] ∧ run.terminal.watch.run = none

theorem play_settled {run : TerminalRun} (settled : Settled run) (turns : List Turn) : Settled (play run turns).1 := by
  induction turns generalizing run with
  | nil => exact settled
  | cons turn later ih =>
    apply ih
    cases going : run.ending with
    | some reason =>
      have ended : run.ending ≠ none := by simp [going]
      rw [turn.perform_ended ended]
      exact settled
    | none =>
      have step := turn.step going
      generalize (turn.perform run).1 = after, (turn.perform run).2 = effects at step ⊢
      intro completed
      cases step with
      | completed last nothing stopped => exact ⟨nothing, by rw [stopped, Watch.stop_idle]⟩
      | failed reason => cases completed
      | waited | wrote | told | echoed =>
        rw [show run.ending = none from going] at completed
        cases completed

end TerminalRun

end BuildWatch
