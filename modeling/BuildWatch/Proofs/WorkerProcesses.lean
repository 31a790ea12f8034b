import BuildWatch.Proofs.WorkerTurns

/-! The processes of a worker speak one at a time. Each is read from its own beginning to its own end, and nothing that
comes from it before or behind that, or from another one in between, leaves a trace in what is reported of it. -/

namespace BuildWatch.Worker
open Tool

/-- What a process that has just been spawned is heard of: its output up to its exit, or to the next request. -/
def heard (process : UInt64) : List Turn → List ProcessOutput
  | [] => []
  | .obey .. :: _ => []
  | .receive other output :: later =>
    if other = process then
      match output with
      | .exited code => [.exited code]
      | output => output :: heard process later
    else heard process later

/-- What there is to report of a process: what its transcript makes of its lines, its failures as error lines in their
places, and its exit. -/
def told (tool : String) (transcript : Transcript) : List ProcessOutput → List Report
  | [] => []
  | .outputLine line :: later => (transcript.outputLine line).2 ++ told tool (transcript.outputLine line).1 later
  | .errorLine line :: later => (transcript.errorLine line).2 ++ told tool (transcript.errorLine line).1 later
  | .failed reason :: later => .errorLine reason :: told tool transcript later
  | .exited code :: _ => [exitReport tool code]

/-- What is reported on account of a process, until its number is given to another one. -/
def said (process : UInt64) (worker : Worker) : List Turn → List Report
  | [] => []
  | .receive other output :: later =>
    (if other = process then reports (worker.receive other output).2 else []) ++
      said process (worker.receive other output).1 later
  | turn :: later => if process ∈ spawned (turn.perform worker).2 then [] else said process (turn.perform worker).1 later

/-- An exit makes room. -/
def Turn.leave (turn : Turn) (occupant : Option UInt64) : Option UInt64 :=
  match turn with
  | .receive process (.exited _) => if occupant = some process then none else occupant
  | _ => occupant

/-- Who has been spawned and is neither closed nor gone, as long as there never were two of them. -/
def occupant? (worker : Worker) (occupant : Option UInt64) : List Turn → Option (Option UInt64)
  | [] => some occupant
  | turn :: later =>
    ((turn.perform worker).2.foldlM occupy? (turn.leave occupant)).bind fun next => occupant? (turn.perform worker).1 next later

/-! ### One process at a time -/

theorem occupy_reports (occupant : Option UInt64) (told : List Report) :
    (told.map WorkerEffect.report).foldlM occupy? occupant = some occupant := by
  induction told with
  | nil => rfl
  | cons report later ih => simpa [occupy?] using ih

theorem Turn.perform_occupied (turn : Turn) (worker : Worker) :
    (turn.perform worker).2.foldlM occupy? (turn.leave worker.process?) = some (turn.perform worker).1.process? := by
  cases turn with
  | obey surroundings request => exact (obey_renewal surroundings request worker).occupied
  | receive process output =>
    show (worker.receive process output).2.foldlM occupy? _ = some (worker.receive process output).1.process?
    by_cases current : worker.process? = some process
    · rw [receive_current current, occupy_reports, onOutput_process]
      cases output <;> simp [Turn.leave, current]
    · rw [receive_stale current]
      cases output <;> simp [Turn.leave, current]

theorem occupant_continued (worker : Worker) (turns : List Turn) :
    occupant? worker worker.process? turns = some (play worker turns).1.process? := by
  induction turns generalizing worker with
  | nil => rfl
  | cons turn later ih =>
    simp only [occupant?, turn.perform_occupied, Option.bind_some, play]
    exact ih _

/-! ### Numbers -/

theorem play_tool (worker : Worker) (turns : List Turn) : (play worker turns).1.tool = worker.tool := by
  induction turns generalizing worker with
  | nil => rfl
  | cons turn later ih =>
    rw [play, ih]
    cases turn with
    | obey surroundings request => exact (obey_renewal surroundings request worker).tool
    | receive process output => exact (receive_kept process output worker).1

/-- A request to start where every file is there and nothing fails. -/
def restart : Turn := .obey ⟨fun _ => true, fun _ => none⟩ (.start ⟨"/p"⟩ ⟨"w.js"⟩)

end BuildWatch.Worker
