import BuildWatch.Proofs.TranscriptCycles

/-! Two streams that race. The answers to output lines depend on the output alone, and those to error lines on the error
lines, but for the start in front of a tick. So any two interleavings of the streams are answered alike up to starts. -/

namespace BuildWatch.Tool.Transcript
open BuildWatch.Text

/-- The lines of both streams, each in its order. -/
inductive Interleaves : List String → List String → List Input → Prop
  | nil : Interleaves [] [] []
  | output {outputs errors : List String} {inputs : List Input} (line : String) (later : Interleaves outputs errors inputs) :
      Interleaves (line :: outputs) errors (.output line :: inputs)
  | error {outputs errors : List String} {inputs : List Input} (line : String) (later : Interleaves outputs errors inputs) :
      Interleaves outputs (line :: errors) (.error line :: inputs)

def outputAnswers (history : List Exchange) : List (List Report) :=
  history.filterMap fun
    | (.output _, reports) => some reports
    | _ => none

def errorAnswers (history : List Exchange) : List (List Report) :=
  history.filterMap fun
    | (.error _, reports) => some reports
    | _ => none

/-- The same reports, but that a tick may have its start in front of it in one of them only. -/
inductive SameButStart : List Report → List Report → Prop
  | same (reports : List Report) : SameButStart reports reports
  | first (percent : UInt8) : SameButStart [.progress 0 false, .progress percent false] [.progress percent false]
  | second (percent : UInt8) : SameButStart [.progress percent false] [.progress 0 false, .progress percent false]

theorem SameButStart.getLast? {first second : List Report} (alike : SameButStart first second) :
    first.getLast? = second.getLast? := by
  cases alike <;> rfl

/-! ### Output lines -/

theorem gather_sameOutput (first second : Transcript) (document : Document) (line : List Char) :
    (first.gather document line).2 = (second.gather document line).2 ∧
      (first.gather document line).1.pending = (second.gather document line).1.pending := by
  unfold gather
  simp only
  split <;> exact ⟨rfl, rfl⟩

theorem plainLine_sameOutput {first second : Transcript} (held : first.pending = second.pending) (line : String) :
    (first.plainLine line).2 = (second.plainLine line).2 ∧
      (first.plainLine line).1.pending = (second.plainLine line).1.pending := by
  unfold plainLine
  split
  next => exact gather_sameOutput first second {} line.toList
  next => exact ⟨rfl, held⟩

/-- What an output line is answered with, and what is pending behind it, does not depend on a build being underway. -/
theorem outputLine_sameOutput {first second : Transcript} (held : first.pending = second.pending) (line : String) :
    (first.outputLine line).2 = (second.outputLine line).2 ∧
      (first.outputLine line).1.pending = (second.outputLine line).1.pending := by
  unfold outputLine
  rw [← held]
  split
  next => exact plainLine_sameOutput held line
  next document _ =>
    split
    next => exact gather_sameOutput first second document line.toList
    next =>
      have idle : ({ first with pending := none } : Transcript).pending =
          ({ second with pending := none } : Transcript).pending := rfl
      obtain ⟨reports, pending⟩ := plainLine_sameOutput idle line
      exact ⟨congrArg (_ ++ ·) reports, pending⟩

/-- Output lines are answered as if there were no others. -/
theorem outputAnswers_alone {outputs errors : List String} {inputs : List Input}
    (interleaves : Interleaves outputs errors inputs)
    (transcript alone : Transcript) (held : transcript.pending = alone.pending) :
    outputAnswers (transcript.exchanges inputs) = (alone.run (outputs.map .output)).2 := by
  induction interleaves generalizing transcript alone with
  | nil => rfl
  | output line later ih =>
    obtain ⟨reports, pending⟩ := outputLine_sameOutput held line
    exact congr (congrArg List.cons reports) (ih _ _ pending)
  | error line later ih => exact ih _ _ ((errorLine_pending transcript line).trans held)

/-! ### Error lines -/

/-- What an error line reports in the end. -/
def notice (line : String) : Report :=
  match progressDigits line.toList with
  | none => .errorLine line
  | some digits => .progress (percentage digits) false

/-- What an error line may be answered with. Only ticks have a start in front of them. -/
inductive Told (line : String) : List Report → Prop
  | alone : Told line [notice line]
  | started (percent : UInt8) (tick : notice line = .progress percent false) : Told line [.progress 0 false, notice line]

theorem errorLine_told (transcript : Transcript) (line : String) : Told line (transcript.errorLine line).2 := by
  cases found : progressDigits line.toList with
  | none =>
    have same : notice line = .errorLine line := by simp only [notice, found]
    simp only [errorLine, found, ← same]
    exact .alone
  | some digits =>
    have tick : notice line = .progress (percentage digits) false := by simp only [notice, found]
    simp only [errorLine, found, ← tick]
    split
    next => exact .alone
    next => exact .started _ tick

theorem errorAnswers_told {outputs errors : List String} {inputs : List Input} (interleaves : Interleaves outputs errors inputs)
    (transcript : Transcript) : List.Forall₂ Told errors (errorAnswers (transcript.exchanges inputs)) := by
  induction interleaves generalizing transcript with
  | nil => exact .nil
  | output line later ih => exact ih (transcript.outputLine line).1
  | error line later ih => exact .cons (transcript.errorLine_told line) (ih (transcript.errorLine line).1)

namespace Told

theorem alike {line : String} {first second : List Report} (one : Told line first) (other : Told line second) :
    SameButStart first second := by
  cases one with
  | alone =>
    cases other with
    | alone => exact .same _
    | started percent tick => exact tick ▸ .second percent
  | started percent tick =>
    cases other with
    | alone => exact tick ▸ .first percent
    | started => exact .same _

theorem last_reports {errors : List String} {answers : List (List Report)} (all : List.Forall₂ Told errors answers) :
    answers.map List.getLast? = (errors.map notice).map some := by
  induction all with
  | nil => rfl
  | cons answer _ ih =>
    rw [List.map_cons, List.map_cons, List.map_cons, ih]
    cases answer <;> rfl

theorem all_alike {errors : List String} {first second : List (List Report)} (one : List.Forall₂ Told errors first)
    (other : List.Forall₂ Told errors second) : List.Forall₂ SameButStart first second := by
  induction one generalizing second with
  | nil =>
    cases other
    exact .nil
  | cons answer _ ih =>
    cases other with
    | cons again others => exact .cons (answer.alike again) (ih others)

end Told

/-- However two streams are interleaved, the race moves no more than the starts in front of ticks. The answers to the output
lines are the same, one by one, and each answer to an error line ends in the same report. -/
theorem race_moves_only_starts {outputs errors : List String} {first second : List Input}
    (one : Interleaves outputs errors first) (other : Interleaves outputs errors second) :
    outputAnswers (exchanges {} first) = outputAnswers (exchanges {} second) ∧
      (∃ last : List Report, (errorAnswers (exchanges {} first)).map List.getLast? = last.map some ∧
        (errorAnswers (exchanges {} second)).map List.getLast? = last.map some) ∧
      List.Forall₂ SameButStart (errorAnswers (exchanges {} first)) (errorAnswers (exchanges {} second)) := by
  have told_first := errorAnswers_told one {}
  have told_second := errorAnswers_told other {}
  refine ⟨?_, ?_, Told.all_alike told_first told_second⟩
  · rw [outputAnswers_alone one {} {} rfl, outputAnswers_alone other {} {} rfl]
  · exact ⟨errors.map notice, Told.last_reports told_first, Told.last_reports told_second⟩

/-- A document comes before or after the second tick, and decides whether that tick starts another build. -/
theorem second_tick_may_start_build :
    let outputs := ["\x7b\x7d"]
    let errors := ["[webpack.Progress] 10%", "[webpack.Progress] 20%"]
    let late : List Input := [.error "[webpack.Progress] 10%", .error "[webpack.Progress] 20%", .output "\x7b\x7d"]
    let early : List Input := [.error "[webpack.Progress] 10%", .output "\x7b\x7d", .error "[webpack.Progress] 20%"]
    Interleaves outputs errors late ∧ Interleaves outputs errors early ∧
      errorAnswers (exchanges {} late) = [[.progress 0 false, .progress 10 false], [.progress 20 false]] ∧
      errorAnswers (exchanges {} early) =
        [[.progress 0 false, .progress 10 false], [.progress 0 false, .progress 20 false]] ∧
      outputAnswers (exchanges {} late) = outputAnswers (exchanges {} early) ∧
      (∃ last : List Report, (errorAnswers (exchanges {} late)).map List.getLast? = last.map some ∧
        (errorAnswers (exchanges {} early)).map List.getLast? = last.map some) ∧
      List.Forall₂ SameButStart (errorAnswers (exchanges {} late)) (errorAnswers (exchanges {} early)) := by
  intro outputs errors late early
  have one : Interleaves outputs errors late := .error _ (.error _ (.output _ .nil))
  have other : Interleaves outputs errors early := .error _ (.output _ (.error _ .nil))
  exact ⟨one, other, by rfl, by rfl, race_moves_only_starts one other⟩

end BuildWatch.Tool.Transcript
