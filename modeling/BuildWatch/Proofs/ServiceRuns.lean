import BuildWatch.Proofs.WorkerProcesses

/-! Runs of a service. Up to the first input that ends it, a service does what its worker is asked, and with that input it
closes what is open. What comes later finds nobody. -/

namespace BuildWatch

namespace Worker

def requests (turns : List Turn) : List Request :=
  turns.filterMap fun
    | .obey _ request => some request
    | .receive .. => none

/-- The command of the session that is open after a turn. Only a start that gets as far as a process opens one, and only
a stop or another start closes it. -/
def opened? (tool : String) (before : Option Tool.Command) : Turn → Option Tool.Command
  | .obey surroundings (.start workingDirectory configFile) =>
    match Tool.Command.find surroundings.isFile tool workingDirectory configFile with
    | .ok command => if (surroundings.spawnFailure command).isNone then some command else none
    | .error _ => none
  | .obey _ .stop => none
  | _ => before

def attempt (surroundings : ToolSurroundings) (process : UInt64) (command : Tool.Command) : WorkerEffect :=
  match surroundings.spawnFailure command with
  | none => .spawn process command
  | some cause => spawnFault command cause

def command? (worker : Worker) : Option Tool.Command := worker.session.map (·.command)

/-! ### Sessions -/

theorem close_command? (worker : Worker) : worker.close.1.command? = none := rfl

theorem openSession_command? (surroundings : ToolSurroundings) (workingDirectory configFile : Path) {worker : Worker}
    (closed : worker.command? = none) :
    (worker.openSession surroundings workingDirectory configFile).1.command? =
      opened? worker.tool worker.command? (.obey surroundings (.start workingDirectory configFile)) := by
  cases found : Tool.Command.find surroundings.isFile worker.tool workingDirectory configFile with
  | error reason => simp only [openSession, opened?, found, closed]
  | ok command =>
    cases failed : surroundings.spawnFailure command with
    | some cause => simpa [openSession, opened?, found, spawn, failed, command?] using closed
    | none => simp [openSession, opened?, found, spawn, failed, command?]

/-- With a session open, the present process is ended without grace, and the same command is attempted again, whatever has
become of the process. -/
theorem invalidate_open (surroundings : ToolSurroundings) {worker : Worker} {session : ToolSession}
    (held : worker.session = some session) :
    worker.invalidate surroundings =
      ({ worker with
          session := some ⟨session.command,
            if (surroundings.spawnFailure session.command).isNone then some worker.nextProcess else none⟩
          transcript := {}
          nextProcess := worker.nextProcess + 1 },
        closing session.process 0 ++ [attempt surroundings worker.nextProcess session.command]) := by
  cases failed : surroundings.spawnFailure session.command <;>
    simp [invalidate, endProcess, respawn, spawn, attempt, held, failed]

theorem Turn.perform_command? (turn : Turn) (worker : Worker) :
    (turn.perform worker).1.command? = opened? worker.tool worker.command? turn := by
  cases turn with
  | obey surroundings request =>
    cases request with
    | start workingDirectory configFile =>
      exact openSession_command? surroundings workingDirectory configFile worker.close_command?
    | stop => rfl
    | invalidate =>
      show (worker.invalidate surroundings).1.command? = worker.command?
      cases held : worker.session with
      | none => simp only [invalidate, held]
      | some session => simp [invalidate_open surroundings held, command?, held]
  | receive process output =>
    by_cases current : worker.process? = some process
    · rw [Turn.perform, receive_current current]
      cases output with
      | exited code => cases held : worker.session <;> simp [onOutput, opened?, command?, held]
      | _ => rfl
    · rw [Turn.perform, receive_stale current]
      rfl

theorem play_command? (worker : Worker) (turns : List Turn) :
    (play worker turns).1.command? = turns.foldl (opened? worker.tool) worker.command? := by
  induction turns generalizing worker with
  | nil => rfl
  | cons turn later ih =>
    -- What a session runs depends on the tool, and no turn changes that.
    have named := play_tool worker [turn]
    rw [play, ih, turn.perform_command?, List.foldl_cons]
    exact congrArg (fun tool => List.foldl (opened? tool) _ later) named

/-! ### Starts -/

theorem close_effects (worker : Worker) :
    ∃ notes, worker.close.2 = closing worker.process? closeGrace ++ notes ∧ ∀ process grace, .close process grace ∉ notes := by
  cases held : worker.session with
  | none => exact ⟨[], by simp [close, held, process?, closing], by simp⟩
  | some session =>
    exact ⟨[.note (.of .debug "watch session closed")], by simp [close, held, process?], by simp⟩

/-- A session that is opened closes nothing, and without a process there is none. -/
theorem openSession_effects (surroundings : ToolSurroundings) (workingDirectory configFile : Path) {worker : Worker}
    (closed : worker.session = none) :
    (∀ process grace, .close process grace ∉ (worker.openSession surroundings workingDirectory configFile).2) ∧
      (spawned (worker.openSession surroundings workingDirectory configFile).2 = [] →
        (worker.openSession surroundings workingDirectory configFile).1.session = none) := by
  cases found : Tool.Command.find surroundings.isFile worker.tool workingDirectory configFile with
  | error reason => simp [openSession, found, closed]
  | ok command =>
    cases failed : surroundings.spawnFailure command with
    | some cause => simp [openSession, found, spawn, failed, spawnFault, closed]
    | none => simp [openSession, found, spawn, failed, spawned]

theorem obey_start_closes (surroundings : ToolSurroundings) (workingDirectory configFile : Path) (worker : Worker) :
    ∃ beginning,
      (worker.obey surroundings (.start workingDirectory configFile)).2.1 = closing worker.process? closeGrace ++ beginning ∧
      (∀ process grace, .close process grace ∉ beginning) ∧
      (spawned beginning = [] → (worker.obey surroundings (.start workingDirectory configFile)).1.session = none) := by
  obtain ⟨notes, shape, silent⟩ := worker.close_effects
  obtain ⟨opening, failed⟩ := worker.close.1.openSession_effects surroundings workingDirectory configFile rfl
  refine ⟨notes ++ (worker.close.1.openSession surroundings workingDirectory configFile).2, ?_, ?_, fun nobody => failed ?_⟩
  · rw [← List.append_assoc, ← shape]
    rfl
  · intro process grace member
    exact (List.mem_append.mp member).elim (silent process grace) (opening process grace)
  · unfold spawned at nobody ⊢
    rw [List.filterMap_append, List.append_eq_nil_iff] at nobody
    exact nobody.2

/-- How a worker that has had some turns goes about another one. Its session is the one its requests have left open. A start
closes the process that is there before anything else, and if none can be spawned, no session is left. To run again is to
attempt the command of the session once more. -/
structure Orderly (tool : String) (earlier : List Turn) (turn : Turn) : Prop where
  session : (play { tool } earlier).1.command? = earlier.foldl (opened? tool) none
  start : ∀ surroundings workingDirectory configFile, turn = .obey surroundings (.start workingDirectory configFile) →
    ∃ beginning,
      (turn.perform (play { tool } earlier).1).2 = closing (play { tool } earlier).1.process? closeGrace ++ beginning ∧
      (∀ process grace, .close process grace ∉ beginning) ∧
      (spawned beginning = [] → (turn.perform (play { tool } earlier).1).1.session = none)
  invalidate : ∀ surroundings command, turn = .obey surroundings .invalidate →
    earlier.foldl (opened? tool) none = some command →
    (turn.perform (play { tool } earlier).1).2 = closing (play { tool } earlier).1.process? 0 ++
        [attempt surroundings (play { tool } earlier).1.nextProcess command] ∧
      (turn.perform (play { tool } earlier).1).1.command? = some command

theorem orderly (tool : String) (earlier : List Turn) (turn : Turn) : Orderly tool earlier turn := by
  have session : (play { tool } earlier).1.command? = earlier.foldl (opened? tool) none := play_command? { tool } earlier
  refine ⟨session, ?_, ?_⟩
  · rintro surroundings workingDirectory configFile rfl
    exact obey_start_closes surroundings workingDirectory configFile _
  · rintro surroundings command rfl there
    obtain ⟨present, held, same⟩ := Option.map_eq_some_iff.mp (session.trans there)
    cases same
    refine ⟨?_, ?_⟩
    · have process : (play { tool } earlier).1.process? = present.process := by rw [process?, held, Option.bind_some]
      rw [process]
      exact congrArg Prod.snd (invalidate_open surroundings held)
    · rw [Turn.perform_command?]
      exact session.trans there

end Worker

namespace Service

/-- An event with the surroundings it finds. -/
structure Turn where
  surroundings : ToolSurroundings
  event : ServiceEvent

def Turn.perform (turn : Turn) (service : Service) : Service × List WorkerEffect := service.step turn.surroundings turn.event

def play (service : Service) : List Turn → Service × List WorkerEffect
  | [] => (service, [])
  | turn :: later =>
    let rest := play (turn.perform service).1 later
    (rest.1, (turn.perform service).2 ++ rest.2)

/-- How an input ends a service, if it does. -/
def terminator? : InputEvent → Option ServiceEnd
  | .line line =>
    if Text.isBlank line then none
    else
      match Request.decode line with
      | .error fault => some (.malformed fault)
      | .ok .stop => some .completed
      | .ok _ => none
  | .finished => some .completed
  | .unreadable reason => some (.unreadable reason)

def request? : InputEvent → Option Request
  | .line line => if Text.isBlank line then none else (Request.decode line).toOption
  | _ => none

def Turn.input? (turn : Turn) : Option InputEvent :=
  match turn.event with
  | .input event => some event
  | .tool .. => none

def Turn.ending? (turn : Turn) : Option ServiceEnd := turn.input?.bind terminator?

def Turn.task? (turn : Turn) : Option Worker.Turn :=
  match turn.event with
  | .input event => (request? event).map (.obey turn.surroundings)
  | .tool process output => some (.receive process output)

/-- All that a worker has to do before its service ends. -/
def tasks (schedule : List Turn) : List Worker.Turn :=
  (schedule.takeWhile fun turn => turn.ending?.isNone).filterMap Turn.task?

/-! ### Turns -/

theorem play_append (service : Service) (earlier later : List Turn) :
    play service (earlier ++ later) =
      ((play (play service earlier).1 later).1, (play service earlier).2 ++ (play (play service earlier).1 later).2) := by
  induction earlier generalizing service with
  | nil => rfl
  | cons turn earlier ih => simp [play, ih]

theorem play_ended {service : Service} (ended : service.ending.isSome = true) (turns : List Turn) :
    play service turns = (service, []) := by
  induction turns with
  | nil => rfl
  | cons turn later ih =>
    have nothing : turn.perform service = (service, []) := if_pos ended
    simp [play, nothing, ih]

/-- What a turn does to a service that has not ended. Only input that cannot be read ends it without closing what is open. -/
inductive Step (worker : Worker) (turn : Turn) : Service → List WorkerEffect → Prop where
  | worked (quiet : turn.ending? = none) :
      Step worker turn ⟨(Worker.play worker turn.task?.toList).1, none⟩ (Worker.play worker turn.task?.toList).2
  | closed {ending : ServiceEnd} {words : List WorkerEffect} (last : turn.ending? = some ending)
      (silent : ∀ effect ∈ words, ∃ record, effect = .note record) :
      Step worker turn ⟨worker.close.1, some ending⟩ (words ++ worker.close.2)
  | lost {reason : String} (last : turn.input? = some (.unreadable reason)) :
      Step worker turn ⟨worker, some (.unreadable reason)⟩ []

theorem line_step (surroundings : ToolSurroundings) (line : String) (worker : Worker) :
    Step worker ⟨surroundings, .input (.line line)⟩ (onLine surroundings line ⟨worker, none⟩).1
      (onLine surroundings line ⟨worker, none⟩).2 := by
  cases blank : Text.isBlank line with
  | true =>
    have step : Step worker ⟨surroundings, .input (.line line)⟩ _ _ :=
      .worked (by simp [Turn.ending?, Turn.input?, terminator?, blank])
    simpa [onLine, blank, Turn.task?, request?, Worker.play] using step
  | false =>
    have last : Turn.ending? ⟨surroundings, .input (.line line)⟩ = terminator? (.line line) := rfl
    simp only [terminator?, blank, Bool.false_eq_true, if_false] at last
    simp only [onLine, blank, Bool.false_eq_true, if_false]
    cases decoded : Request.decode line with
    | error fault =>
      simp only [decoded] at last
      exact .closed last (by simp)
    | ok request =>
      simp only [decoded] at last
      cases request with
      | stop => exact .closed last (List.forall_mem_nil _)
      | start | invalidate =>
        have step : Step worker ⟨surroundings, .input (.line line)⟩ _ _ := .worked last
        simpa [Turn.task?, request?, blank, decoded, Except.toOption, Worker.play, Worker.Turn.perform, Worker.obey] using step

theorem Turn.step (turn : Turn) (worker : Worker) :
    Step worker turn (turn.perform ⟨worker, none⟩).1 (turn.perform ⟨worker, none⟩).2 := by
  obtain ⟨surroundings, event⟩ := turn
  cases event with
  | tool process output =>
    have step : Step worker ⟨surroundings, .tool process output⟩ _ _ := .worked rfl
    simpa [Turn.perform, Service.step, Turn.task?, Worker.play, Worker.Turn.perform] using step
  | input event =>
    cases event with
    | line line =>
      -- The step is opened by hand, or unification would open the decoding of the line.
      simp only [Turn.perform, Service.step, Option.isSome_none, Bool.false_eq_true, if_false]
      exact line_step surroundings line worker
    | finished => exact .closed rfl (by simp)
    | unreadable reason => exact .lost rfl

theorem Turn.perform_quiet {turn : Turn} (quiet : turn.ending? = none) (worker : Worker) :
    turn.perform ⟨worker, none⟩ =
      (⟨(Worker.play worker turn.task?.toList).1, none⟩, (Worker.play worker turn.task?.toList).2) := by
  have step := turn.step worker
  generalize turn.perform ⟨worker, none⟩ = result at step ⊢
  obtain ⟨after, effects⟩ := result
  cases step with
  | worked => rfl
  | closed last => cases quiet.symm.trans last
  | lost last => simp [Turn.ending?, last, terminator?] at quiet

/-- An input that can be read and ends a service closes what is open. -/
theorem Turn.perform_last {turn : Turn} {ending : ServiceEnd} (last : turn.ending? = some ending)
    (readable : ∀ reason, turn.input? ≠ some (.unreadable reason)) (worker : Worker) :
    ∃ words, (∀ effect ∈ words, ∃ record, effect = .note record) ∧
      turn.perform ⟨worker, none⟩ = (⟨worker.close.1, some ending⟩, words ++ worker.close.2) := by
  have step := turn.step worker
  generalize turn.perform ⟨worker, none⟩ = result at step ⊢
  obtain ⟨after, effects⟩ := result
  cases step with
  | worked quiet => cases quiet.symm.trans last
  | @closed other words same silent =>
    cases last.symm.trans same
    exact ⟨words, silent, rfl⟩
  | lost unreadable => exact absurd unreadable (readable _)

theorem play_quiet {turns : List Turn} (quiet : ∀ turn ∈ turns, turn.ending? = none) (worker : Worker) :
    play ⟨worker, none⟩ turns =
      (⟨(Worker.play worker (turns.filterMap Turn.task?)).1, none⟩, (Worker.play worker (turns.filterMap Turn.task?)).2) := by
  induction turns generalizing worker with
  | nil => rfl
  | cons turn later ih =>
    obtain ⟨first, others⟩ := List.forall_mem_cons.mp quiet
    have split : (turn :: later).filterMap Turn.task? = turn.task?.toList ++ later.filterMap Turn.task? := by
      cases task : turn.task? <;> simp [task]
    rw [split, Worker.play_append, play, turn.perform_quiet first, ih others]

/-- The first input that ends a service is where its worker stops, and the rest of the turns pass it by. -/
theorem play_until {before after : List Turn} {last : Turn} {ending : ServiceEnd}
    (quiet : ∀ turn ∈ before, turn.ending? = none) (closing : last.ending? = some ending)
    (readable : ∀ reason, last.input? ≠ some (.unreadable reason)) (worker : Worker) :
    ∃ words, (∀ effect ∈ words, ∃ record, effect = .note record) ∧
      play ⟨worker, none⟩ (before ++ last :: after) =
        (⟨(Worker.play worker (tasks (before ++ last :: after))).1.close.1, some ending⟩,
          (Worker.play worker (tasks (before ++ last :: after))).2 ++
            (words ++ (Worker.play worker (tasks (before ++ last :: after))).1.close.2)) := by
  have all : ∀ turn ∈ before, turn.ending?.isNone = true := fun turn member => Option.isNone_iff_eq_none.mpr (quiet turn member)
  have stop : (last :: after).takeWhile (fun turn => turn.ending?.isNone) = [] := List.takeWhile_cons_of_neg (by simp [closing])
  have done : tasks (before ++ last :: after) = before.filterMap Turn.task? := by
    rw [tasks, List.takeWhile_append_of_pos all, stop, List.append_nil]
  obtain ⟨words, silent, closed⟩ := last.perform_last closing readable (Worker.play worker (before.filterMap Turn.task?)).1
  refine ⟨words, silent, ?_⟩
  rw [done, play_append, play_quiet quiet worker, play, closed, play_ended rfl, List.append_nil]

/-! ### Schedules -/

/-- The end of input ends a service, so what comes before the end are lines. -/
theorem takeWhile_lines (lines : List String) :
    (lines.map InputEvent.line ++ [InputEvent.finished]).takeWhile (fun event => (terminator? event).isNone) =
      (lines.takeWhile fun line => (terminator? (.line line)).isNone).map .line := by
  induction lines with
  | nil => rfl
  | cons line later ih =>
    rw [List.map_cons, List.cons_append, List.takeWhile_cons, List.takeWhile_cons, ih]
    split <;> rfl

section Inputs
variable {schedule : List Turn} {lines : List String}
  (inputs : schedule.filterMap Turn.input? = lines.map .line ++ [.finished])
include inputs

theorem findSome?_ending? : schedule.findSome? Turn.ending? =
    some ((lines.findSome? fun line => terminator? (.line line)).getD .completed) := by
  have through (turns : List Turn) : turns.findSome? Turn.ending? = (turns.filterMap Turn.input?).findSome? terminator? := by
    induction turns with
    | nil => rfl
    | cons turn later ih => cases met : turn.input? <;> simp [Turn.ending?, met, ih, List.findSome?_cons]
  have last : [InputEvent.finished].findSome? terminator? = some .completed := rfl
  rw [through, inputs, List.findSome?_append, List.findSome?_map, last]
  show (lines.findSome? fun line => terminator? (.line line)).or (some .completed) = _
  cases lines.findSome? fun line => terminator? (.line line) <;> rfl

theorem requests_tasks : Worker.requests (tasks schedule) =
    (lines.takeWhile fun line => (terminator? (.line line)).isNone).filterMap fun line => request? (.line line) := by
  have given (turn : Turn) : (turn.task?.bind fun
      | .obey _ request => some request
      | .receive .. => none) = turn.input?.bind request? := by
    obtain ⟨surroundings, event⟩ := turn
    cases event with
    | tool process output => rfl
    | input event => cases asked : request? event <;> simp [Turn.task?, Turn.input?, asked]
  have quiet (turn : Turn) : turn.ending?.isNone = turn.input?.all fun event => (terminator? event).isNone := by
    cases met : turn.input? <;> simp [Turn.ending?, met]
  have before := congrArg (List.takeWhile fun event => (terminator? event).isNone) inputs
  rw [List.takeWhile_filterMap] at before
  simp only [Worker.requests, tasks, List.filterMap_filterMap, given, quiet]
  rw [← List.filterMap_filterMap, before, takeWhile_lines, List.filterMap_map]
  rfl

theorem readable_input {turn : Turn} (member : turn ∈ schedule) (reason : String) :
    turn.input? ≠ some (.unreadable reason) := by
  intro unreadable
  have among := List.mem_filterMap.mpr ⟨turn, member, unreadable⟩
  rw [inputs] at among
  simp at among

end Inputs

theorem terminator?_failure {line : String} {ending : ServiceEnd} (failure : ending ≠ .completed) :
    terminator? (.line line) = some ending ↔
      ∃ fault, ending = .malformed fault ∧ Text.isBlank line = false ∧ Request.decode line = .error fault := by
  simp only [terminator?]
  split
  next blank => simp [blank]
  next visible =>
    have seen : Text.isBlank line = false := by simpa using visible
    cases decoded : Request.decode line with
    | error fault => simp [seen, eq_comm]
    | ok request => cases request <;> simp [failure.symm]

/-- Lines end in failure by the first one that is neither blank nor a request, if no stop is before it. -/
theorem getD_terminator?_failure {lines : List String} :
    (lines.findSome? fun line => terminator? (.line line)).getD .completed ≠ .completed ↔
      ∃ before line after fault, lines = before ++ line :: after ∧ (∀ earlier ∈ before, terminator? (.line earlier) = none) ∧
        Text.isBlank line = false ∧ Request.decode line = .error fault := by
  constructor
  · intro failure
    cases found : lines.findSome? fun line => terminator? (.line line) with
    | none => simp [found] at failure
    | some ending =>
      obtain ⟨before, line, after, split, ends, quiet⟩ := List.findSome?_eq_some_iff.mp found
      rw [found, Option.getD_some] at failure
      obtain ⟨fault, rfl, broken⟩ := (terminator?_failure failure).mp ends
      exact ⟨before, line, after, fault, split, quiet, broken⟩
  · rintro ⟨before, line, after, fault, split, quiet, broken⟩
    have failure : ServiceEnd.malformed fault ≠ .completed := nofun
    have ends := (terminator?_failure failure).mpr ⟨fault, rfl, broken⟩
    rw [List.findSome?_eq_some_iff.mpr ⟨before, line, after, split, ends, quiet⟩]
    nofun

/-- What a service has come to on lines that gave its worker some tasks. -/
structure Served (tool : String) (lines : List String) (tasks : List Worker.Turn) (service : Service)
    (effects : List WorkerEffect) : Prop where
  /-- The worker was given the requests before the first line that ends a service, in their order. -/
  requests : Worker.requests tasks =
    (lines.takeWhile fun line => (terminator? (.line line)).isNone).filterMap fun line => request? (.line line)
  /-- Nothing was done but its tasks, and what it takes to close what they left open. -/
  effects : ∃ words, (∀ effect ∈ words, ∃ record, effect = .note record) ∧
    effects = (Worker.play { tool } tasks).2 ++ (words ++ (Worker.play { tool } tasks).1.close.2)
  worker : service.worker = (Worker.play { tool } tasks).1.close.1
  session : service.worker.session = none
  /-- Every process that was spawned has exited or been closed. -/
  processes : ((Worker.occupant? { tool } none tasks).bind fun occupant =>
    (Worker.play { tool } tasks).1.close.2.foldlM Worker.occupy? occupant) = some none
  ending : service.ending = some ((lines.findSome? fun line => terminator? (.line line)).getD .completed)
  failed : service.ending ≠ some .completed ↔
    ∃ before line after fault, lines = before ++ line :: after ∧ (∀ earlier ∈ before, terminator? (.line earlier) = none) ∧
      Text.isBlank line = false ∧ Request.decode line = .error fault

/-- Whatever lines a service reads before its input ends, and whatever its processes put out in between: it does what the
requests before the first line that ends it ask for, and with that line, or with the end of its input, it closes what is
open. It fails exactly if that line is not blank and no request. On the way, all requests are obeyed in an orderly way. -/
theorem service_obeys_until_terminated (tool : String) {lines : List String} {schedule : List Turn}
    (inputs : schedule.filterMap Turn.input? = lines.map .line ++ [.finished]) :
    Served tool lines (tasks schedule) (play ⟨{ tool }, none⟩ schedule).1 (play ⟨{ tool }, none⟩ schedule).2 ∧
      ∀ earlier task later, tasks schedule = earlier ++ task :: later → Worker.Orderly tool earlier task := by
  refine ⟨?_, fun earlier task later _ => Worker.orderly tool earlier task⟩
  have first := findSome?_ending? inputs
  obtain ⟨before, last, after, rfl, closing, quiet⟩ := List.findSome?_eq_some_iff.mp first
  have readable (reason : String) := readable_input inputs (List.mem_append_right before List.mem_cons_self) reason
  obtain ⟨words, silent, whole⟩ := play_until quiet closing readable { tool }
  rw [whole]
  refine ⟨requests_tasks inputs, ⟨words, silent, rfl⟩, rfl, rfl, ?_, rfl, ?_⟩
  · have occupied := Worker.occupant_continued { tool } (tasks (before ++ last :: after))
    exact (congrArg (Option.bind · _) occupied).trans (Worker.close_renewal _).occupied
  · exact (not_congr Option.some_inj).trans getD_terminator?_failure

def plentiful : ToolSurroundings := ⟨fun _ => true, fun _ => none⟩

def exhausted : ToolSurroundings := ⟨fun _ => true, fun _ => some "out of memory"⟩

def startLine : String := "\x7b\"command\":\"start\",\"cwd\":\"/p\",\"configFile\":\"w.js\"\x7d"

def invalidateLine : String := "\x7b\"command\":\"invalidate\"\x7d"

/-- Between a start and a line that is no request, the tool dies, one attempt to run it again fails, and one succeeds. -/
def stumbling : List Turn :=
  [⟨plentiful, .input (.line " ")⟩, ⟨plentiful, .input (.line startLine)⟩, ⟨plentiful, .tool 0 (.exited (some 1))⟩,
    ⟨exhausted, .input (.line invalidateLine)⟩, ⟨plentiful, .input (.line invalidateLine)⟩,
    ⟨plentiful, .input (.line "restart")⟩, ⟨plentiful, .tool 2 (.outputLine "asset main.js")⟩,
    ⟨plentiful, .input (.line startLine)⟩, ⟨plentiful, .input .finished⟩]

def stumbled : List Worker.Turn :=
  [.obey plentiful (.start ⟨"/p"⟩ ⟨"w.js"⟩), .receive 0 (.exited (some 1)), .obey exhausted .invalidate]

/-- The last attempt runs the command of the start, the line that is no request closes the session, and the start behind
that line opens none. -/
theorem stumbling_service_ends :
    (play ⟨{ tool := "webpack" }, none⟩ stumbling).1.worker.session = none ∧
      (play ⟨{ tool := "webpack" }, none⟩ stumbling).1.ending ≠ some .completed ∧
      (Worker.Turn.perform (.obey plentiful .invalidate) (Worker.play { tool := "webpack" } stumbled).1).1.command? =
        some ⟨⟨"/p/node_modules/.bin/webpack"⟩, Tool.watchArguments ⟨"/p/w.js"⟩, ⟨"/p"⟩⟩ := by
  have inputs : stumbling.filterMap Turn.input? =
      [" ", startLine, invalidateLine, invalidateLine, "restart", startLine].map .line ++ [.finished] := rfl
  obtain ⟨served, orderly⟩ := service_obeys_until_terminated "webpack" inputs
  have opened : stumbled.foldl (Worker.opened? "webpack") none =
      some ⟨⟨"/p/node_modules/.bin/webpack"⟩, Tool.watchArguments ⟨"/p/w.js"⟩, ⟨"/p"⟩⟩ := by decide +kernel
  obtain ⟨_, kept⟩ := (orderly stumbled (.obey plentiful .invalidate) [] rfl).invalidate plentiful _ rfl opened
  have quiet : [" ", startLine, invalidateLine, invalidateLine].all (fun line => (terminator? (.line line)).isNone) = true := by
    decide +kernel
  have broken := served.failed.mpr ⟨_, "restart", [startLine], _, rfl,
    fun line member => Option.isNone_iff_eq_none.mp (List.all_eq_true.mp quiet line member), rfl, rfl⟩
  exact ⟨served.session, broken, kept⟩

end Service

end BuildWatch
