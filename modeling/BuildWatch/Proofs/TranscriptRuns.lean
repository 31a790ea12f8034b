import BuildWatch.Tool.Transcript

/-! Runs of a transcript. Whatever has come before, a pending document holds the output lines since it was
begun, so giving it back gives back those lines. -/

namespace BuildWatch.Tool.Transcript
open BuildWatch.Text

inductive Input where
  | output (line : String)
  | error (line : String)
  | reset
  deriving DecidableEq

def take (transcript : Transcript) : Input → Transcript × List Report
  | .output line => transcript.outputLine line
  | .error line => transcript.errorLine line
  | .reset => ({}, [])

/-- The transcript after some input, and the reports of every single piece of it. -/
def run (transcript : Transcript) : List Input → Transcript × List (List Report)
  | [] => (transcript, [])
  | input :: later =>
    let rest := run (transcript.take input).1 later
    (rest.1, (transcript.take input).2 :: rest.2)

def outputLines (inputs : List Input) : List (List Char) :=
  inputs.filterMap fun
    | .output line => some line.toList
    | _ => none

/-- Lines with a line feed behind each. -/
def joined (lines : List (List Char)) : List Char := lines.flatMap (· ++ ['\n'])

theorem pieces_some (text : List Char) : ∃ piece later, pieces text = piece :: later := by
  cases text with
  | nil => exact ⟨[], [], rfl⟩
  | cons c rest =>
    simp only [pieces]
    split
    next => exact ⟨[c], [], rfl⟩
    next piece later _ => split <;> exact ⟨_, _, rfl⟩

theorem pieces_line {line : List Char} (whole : '\n' ∉ line) (rest : List Char) :
    pieces (line ++ '\n' :: rest) = line :: pieces rest := by
  induction line with
  | nil =>
    obtain ⟨piece, later, shape⟩ := pieces_some rest
    simp only [List.nil_append, pieces, shape, if_true]
  | cons c line ih =>
    have first : c ≠ '\n' := fun same => whole (same ▸ List.mem_cons_self)
    have others : '\n' ∉ line := fun member => whole (List.mem_cons_of_mem c member)
    simp only [List.cons_append, pieces, ih others, if_neg first]

theorem splitLines_joined {lines : List (List Char)} (whole : ∀ line ∈ lines, '\n' ∉ line) :
    splitLines (joined lines) = lines.map dropReturn := by
  induction lines with
  | nil => rfl
  | cons line later ih =>
    have next := ih fun other member => whole other (List.mem_cons_of_mem _ member)
    have cut : pieces (line ++ '\n' :: joined later) = line :: pieces (joined later) :=
      pieces_line (whole line List.mem_cons_self) (joined later)
    have shape : joined (line :: later) = line ++ '\n' :: joined later := by simp [joined]
    obtain ⟨piece, others, more⟩ := pieces_some (joined later)
    rw [shape, List.map_cons, ← next]
    simp only [splitLines, cut, more, splitLines.go]

/-! ### Pending documents -/

theorem gather_pending {transcript : Transcript} {document after : Document} {line : List Char}
    (pending : (transcript.gather document line).1.pending = some after) : after = document.append line := by
  unfold gather at pending
  simp only at pending
  split at pending
  next => cases pending
  next => exact (Option.some.inj pending).symm

theorem plainLine_pending {transcript : Transcript} (idle : transcript.pending = none) {line : String}
    {after : Document} (pending : (transcript.plainLine line).1.pending = some after) : after = Document.append {} line.toList := by
  unfold plainLine at pending
  split at pending
  next => exact gather_pending pending
  next =>
    rw [idle] at pending
    cases pending

theorem errorLine_pending (transcript : Transcript) (line : String) :
    (transcript.errorLine line).1.pending = transcript.pending := by
  unfold errorLine
  split <;> rfl

theorem outputLines_append (earlier later : List Input) :
    outputLines (earlier ++ later) = outputLines earlier ++ outputLines later :=
  List.filterMap_append

theorem gathered_text (lines : List (List Char)) (document : Document) :
    (lines.foldl Document.append document).text = document.text ++ joined lines := by
  induction lines generalizing document with
  | nil => simp [joined]
  | cons line later ih =>
    rw [List.foldl_cons, ih]
    simp [Document.append, joined]

/-- A pending document is made of all output lines from some point on, without a reset after it. -/
def Holds (past : List Input) (transcript : Transcript) : Prop :=
  ∀ document, transcript.pending = some document → ∃ earlier recent, past = earlier ++ recent ∧ .reset ∉ recent ∧
    document = (outputLines recent).foldl Document.append {}

theorem Holds.begun (past : List Input) {line : String} {transcript : Transcript}
    (shape : ∀ document, transcript.pending = some document → document = Document.append {} line.toList) :
    Holds (past ++ [.output line]) transcript := by
  intro document pending
  exact ⟨past, [.output line], rfl, by simp, shape document pending⟩

theorem Holds.take {past : List Input} {transcript : Transcript} (holds : Holds past transcript) (input : Input) :
    Holds (past ++ [input]) (transcript.take input).1 := by
  cases input with
  | reset =>
    intro document pending
    cases pending
  | error line =>
    intro document pending
    obtain ⟨earlier, recent, rfl, kept, made⟩ := holds document ((errorLine_pending transcript line).symm.trans pending)
    refine ⟨earlier, recent ++ [.error line], List.append_assoc .., by simpa using kept, ?_⟩
    rw [made, outputLines_append]
    simp [outputLines]
  | output line =>
    simp only [Transcript.take, outputLine]
    split
    next idle => exact .begun past fun document pending => plainLine_pending idle pending
    next document active =>
      split
      next =>
        intro after pending
        obtain ⟨earlier, recent, rfl, kept, made⟩ := holds document active
        refine ⟨earlier, recent ++ [.output line], List.append_assoc .., by simpa using kept, ?_⟩
        rw [gather_pending pending, made, outputLines_append, List.foldl_append]
        rfl
      next => exact .begun past fun document pending => plainLine_pending rfl pending

/-- The reports that give back a pending document. -/
def givenBack (transcript : Transcript) : List Report :=
  match transcript.pending with
  | none => []
  | some document => (splitLines document.text).map fun line => .line (String.ofList line)

/-- A line that continues nothing gives back what is pending and stands for itself. -/
theorem outputLine_broken (transcript : Transcript) {line : String} (broken : Document.continues line.toList = false) :
    transcript.outputLine line =
      ((plainLine { transcript with pending := none } line).1,
        transcript.givenBack ++ (plainLine { transcript with pending := none } line).2) := by
  obtain ⟨building, pending⟩ := transcript
  cases pending with
  | none => simp only [outputLine, givenBack, List.nil_append]
  | some document => simp only [outputLine, givenBack, broken, Bool.false_eq_true, if_false]

/-- A pending document is given back line by line, without the carriage returns at the ends of its lines. -/
theorem givenBack_lines {transcript : Transcript} {lines : List (List Char)}
    (pending : transcript.pending = some (lines.foldl Document.append {})) (whole : ∀ line ∈ lines, '\n' ∉ line) :
    transcript.givenBack = lines.map fun line => .line (String.ofList (dropReturn line)) := by
  have text : (lines.foldl Document.append {}).text = joined lines := gathered_text lines {}
  simp only [givenBack, pending, text, splitLines_joined whole, List.map_map]
  rfl

end BuildWatch.Tool.Transcript
