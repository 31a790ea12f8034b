import BuildWatch.Worker

/-! Runs of a worker. A request closes the present process and starts another one at most; what a process puts out
moves nothing but its own transcript and its own end. -/

namespace BuildWatch.Worker

/-- A request with the surroundings it finds, or some output of a process. Files and spawns may fail differently every time. -/
inductive Turn where
  | obey (surroundings : ToolSurroundings) (request : Request)
  | receive (process : UInt64) (output : ProcessOutput)

def Turn.perform (turn : Turn) (worker : Worker) : Worker × List WorkerEffect :=
  match turn with
  | .obey surroundings request => ((worker.obey surroundings request).1, (worker.obey surroundings request).2.1)
  | .receive process output => worker.receive process output

/-- The worker after some turns, and all effects on the way. -/
def play (worker : Worker) : List Turn → Worker × List WorkerEffect
  | [] => (worker, [])
  | turn :: later =>
    let rest := play (turn.perform worker).1 later
    (rest.1, (turn.perform worker).2 ++ rest.2)

theorem play_append (worker : Worker) (earlier later : List Turn) :
    play worker (earlier ++ later) =
      ((play (play worker earlier).1 later).1, (play worker earlier).2 ++ (play (play worker earlier).1 later).2) := by
  induction earlier generalizing worker with
  | nil => rfl
  | cons turn earlier ih => simp [play, ih]

def reports (effects : List WorkerEffect) : List Report :=
  effects.filterMap fun
    | .report report => some report
    | _ => none

def spawned (effects : List WorkerEffect) : List UInt64 :=
  effects.filterMap fun
    | .spawn process _ => some process
    | _ => none

/-- How many process numbers a turn uses up. -/
def Turn.numbered (turn : Turn) (worker : Worker) : Nat :=
  match turn with
  | .obey surroundings (.start workingDirectory configFile) =>
    match Tool.Command.find surroundings.isFile worker.tool workingDirectory configFile with
    | .ok _ => 1
    | .error _ => 0
  | .obey _ .invalidate => if worker.session.isSome then 1 else 0
  | _ => 0

def numbered (worker : Worker) : List Turn → Nat
  | [] => 0
  | turn :: later => turn.numbered worker + numbered (turn.perform worker).1 later

/-- Room for one process. It is spawned into an empty room, and nobody else can be closed. -/
def occupy? (occupant : Option UInt64) : WorkerEffect → Option (Option UInt64)
  | .spawn process _ => if occupant = none then some (some process) else none
  | .close process _ => if occupant = some process then some none else none
  | _ => some occupant

/-! ### Requests -/

/-- What happens to processes on a request. Who is present afterwards has just been spawned, with a number of its own
and a fresh transcript. -/
structure Renewal (worker after : Worker) (effects : List WorkerEffect) (numbers : Nat) : Prop where
  tool : after.tool = worker.tool
  silent : reports effects = []
  numbered : after.nextProcess = worker.nextProcess + UInt64.ofNat numbers
  occupied : effects.foldlM occupy? worker.process? = some after.process?
  present : ∀ process, after.process? = some process → process ∈ spawned effects
  fresh : ∀ process ∈ spawned effects,
    process = worker.nextProcess ∧ 0 < numbers ∧ after.process? = some process ∧ after.transcript = {}

theorem Renewal.behind {worker middle after : Worker} {effects later : List WorkerEffect} {numbers : Nat}
    (first : Renewal worker middle effects 0) (second : Renewal middle after later numbers) :
    Renewal worker after (effects ++ later) numbers := by
  have same : middle.nextProcess = worker.nextProcess := by simpa using first.numbered
  have none : spawned effects = [] := by
    apply List.eq_nil_iff_forall_not_mem.mpr
    intro process member
    exact absurd (first.fresh process member).2.1 (Nat.lt_irrefl 0)
  have split : spawned (effects ++ later) = spawned later := by
    unfold spawned at none ⊢
    rw [List.filterMap_append, none, List.nil_append]
  refine ⟨second.tool.trans first.tool, ?_, by rw [second.numbered, same], ?_, ?_, ?_⟩
  · have silent := second.silent
    have before := first.silent
    unfold reports at silent before ⊢
    rw [List.filterMap_append, before, silent, List.nil_append]
  · rw [List.foldlM_append, first.occupied]
    exact second.occupied
  · rw [split]
    exact second.present
  · rw [split, ← same]
    exact second.fresh

theorem close_idle (worker : Worker) : worker.close.1.process? = none := rfl

theorem close_renewal (worker : Worker) : Renewal worker worker.close.1 worker.close.2 0 := by
  obtain ⟨tool, session, transcript, next⟩ := worker
  cases session with
  | none => exact ⟨rfl, rfl, by simp [close], rfl, by simp [close_idle], by simp [close, spawned]⟩
  | some session =>
    obtain ⟨command, process⟩ := session
    cases process with
    | none => exact ⟨rfl, rfl, by simp [close], rfl, by simp [close_idle], by simp [close, closing, spawned]⟩
    | some process =>
      refine ⟨rfl, rfl, by simp [close], ?_, by simp [close_idle], by simp [close, closing, spawned]⟩
      simp [close, closing, process?, occupy?]

theorem openSession_renewal (surroundings : ToolSurroundings) (workingDirectory configFile : Path) {worker : Worker}
    (idle : worker.process? = none) :
    Renewal worker (worker.openSession surroundings workingDirectory configFile).1
      (worker.openSession surroundings workingDirectory configFile).2
      (Turn.numbered (.obey surroundings (.start workingDirectory configFile)) worker) := by
  cases found : Tool.Command.find surroundings.isFile worker.tool workingDirectory configFile with
  | error reason =>
    simp only [openSession, Turn.numbered, found]
    exact ⟨rfl, rfl, by simp, by simp [occupy?], by simp [idle], by simp [spawned]⟩
  | ok command =>
    cases failed : surroundings.spawnFailure command with
    | some cause =>
      simp only [openSession, Turn.numbered, found, spawn, failed]
      have absent : ({ worker with nextProcess := worker.nextProcess + 1, transcript := {} } : Worker).process? = none := idle
      refine ⟨rfl, rfl, rfl, ?_, by simp [absent], by simp [spawned, spawnFault]⟩
      simp [occupy?, spawnFault, idle, absent]
    | none =>
      simp only [openSession, Turn.numbered, found, spawn, failed]
      exact ⟨rfl, rfl, rfl, by rw [idle]; rfl, by simp [process?, spawned], by simp [process?, spawned]⟩

theorem invalidate_renewal (surroundings : ToolSurroundings) (worker : Worker) :
    Renewal worker (worker.invalidate surroundings).1 (worker.invalidate surroundings).2
      (Turn.numbered (.obey surroundings .invalidate) worker) := by
  obtain ⟨tool, session, transcript, next⟩ := worker
  cases session with
  | none => exact ⟨rfl, rfl, by simp [invalidate, Turn.numbered], rfl, by simp [invalidate, process?], by simp [invalidate, spawned]⟩
  | some session =>
    obtain ⟨command, process⟩ := session
    cases failed : surroundings.spawnFailure command with
    | some cause =>
      simp only [invalidate, endProcess, respawn, spawn, failed]
      cases process with
      | none => exact ⟨rfl, rfl, rfl, rfl, by simp [process?], by simp [closing, spawned, spawnFault]⟩
      | some process =>
        exact ⟨rfl, rfl, rfl, by simp [closing, occupy?, process?, spawnFault], by simp [process?],
          by simp [closing, spawned, spawnFault]⟩
    | none =>
      simp only [invalidate, endProcess, respawn, spawn, failed]
      cases process with
      | none =>
        exact ⟨rfl, rfl, rfl, rfl, by simp [process?, closing, spawned], by simp [process?, closing, spawned, Turn.numbered]⟩
      | some process =>
        exact ⟨rfl, rfl, rfl, by simp [closing, occupy?, process?], by simp [process?, closing, spawned],
          by simp [process?, closing, spawned, Turn.numbered]⟩

theorem obey_renewal (surroundings : ToolSurroundings) (request : Request) (worker : Worker) :
    Renewal worker (Turn.perform (.obey surroundings request) worker).1 (Turn.perform (.obey surroundings request) worker).2
      (Turn.numbered (.obey surroundings request) worker) := by
  cases request with
  | start workingDirectory configFile =>
    exact (close_renewal worker).behind
      (openSession_renewal surroundings workingDirectory configFile (close_idle worker))
  | invalidate => exact invalidate_renewal surroundings worker
  | stop => exact close_renewal worker

/-! ### Output -/

theorem receive_stale {worker : Worker} {process : UInt64} (stale : worker.process? ≠ some process)
    (output : ProcessOutput) : worker.receive process output = (worker, []) := if_neg stale

theorem receive_current {worker : Worker} {process : UInt64} (current : worker.process? = some process)
    (output : ProcessOutput) :
    worker.receive process output = ((worker.onOutput output).1, (worker.onOutput output).2.map .report) := if_pos current

theorem spawned_map (told : List Report) : spawned (told.map .report) = [] := by
  simp [spawned, List.filterMap_map]

/-- Only its exit takes a process away. -/
theorem onOutput_process (output : ProcessOutput) (worker : Worker) :
    (worker.onOutput output).1.process? = match output with
      | .exited _ => none
      | _ => worker.process? := by
  cases output with
  | exited code => cases held : worker.session <;> simp [onOutput, process?, held]
  | _ => rfl

/-- Output of any process, present or not, leaves the tool and the numbers as they are and spawns nothing. -/
theorem receive_kept (process : UInt64) (output : ProcessOutput) (worker : Worker) :
    (worker.receive process output).1.tool = worker.tool ∧
      (worker.receive process output).1.nextProcess = worker.nextProcess ∧
      spawned (worker.receive process output).2 = [] := by
  by_cases current : worker.process? = some process
  · rw [receive_current current]
    refine ⟨?_, ?_, spawned_map _⟩
    all_goals cases output <;> rfl
  · rw [receive_stale current]
    exact ⟨rfl, rfl, rfl⟩

end BuildWatch.Worker
