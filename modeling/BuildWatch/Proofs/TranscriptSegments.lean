import BuildWatch.Proofs.TranscriptRuns

/-! What becomes of the output lines of a transcript. They fall into segments, one behind the other: lines reported as
they are, documents that are broken off and given back, and documents that close a build. What is pending belongs to no
segment yet. -/

namespace BuildWatch.Tool.Transcript
open BuildWatch.Text

/-- How a document is answered: with its outcome if it can be read, and with a failure otherwise. -/
def answer (text : List Char) : Report :=
  match Json.parse (String.ofList text) with
  | .ok document => .finished (outcomeOf document)
  | .error reason => .failure (.object [("message", .string ("Unreadable stats output: " ++ reason))])

inductive Segment where
  | logged (line : List Char)
  /-- A document that was broken off before its end. -/
  | broken (lines : List (List Char))
  | document (lines : List (List Char))
  deriving DecidableEq

namespace Segment

def lines : Segment → List (List Char)
  | logged line => [line]
  | broken lines | document lines => lines

def reports : Segment → List Report
  | logged line => [.line (String.ofList line)]
  | broken lines => lines.map fun line => .line (String.ofList (dropReturn line))
  | document lines => [.progress 100 true, answer (joined lines)]

end Segment

/-- A line that begins with a brace, apart from space. -/
def Opening (line : List Char) : Prop := ∃ rest, trimStart line = '\x7b' :: rest

/-- A line that is empty, indented or begins with a closing bracket. -/
def Continuing (line : List Char) : Prop := ∀ c ∈ line.head?, isSpace c = true ∨ c = '\x7d' ∨ c = ']'

theorem opens_iff (line : List Char) : Document.opens line = true ↔ Opening line := by
  simp only [Document.opens, Opening, beq_iff_eq, List.head?_eq_some_iff]

theorem continues_iff (line : List Char) : Document.continues line = true ↔ Continuing line := by
  cases line <;> simp [Document.continues, Continuing, or_assoc]

/-- Lines as they are printed for one document. -/
def Printed : List (List Char) → Prop
  | [] => True
  | first :: later => Opening first ∧ ∀ line ∈ later, Continuing line

/-- The brackets in the lines balance. -/
def Balanced (lines : List (List Char)) : Prop := (lines.foldl Document.append {}).isComplete = true

/-- Lines of one document that has not come to its end. -/
structure Unfinished (lines : List (List Char)) : Prop where
  printed : Printed lines
  going : ∀ front, front <+: lines → ¬ Balanced front

/-- Lines of one document that comes to its end with the last of them. -/
structure Finished (lines : List (List Char)) : Prop where
  printed : Printed lines
  ended : Balanced lines
  going : ∀ front, front <+: lines → front ≠ lines → ¬ Balanced front

/-- Lines fall into segments and what is pending behind them. Only a line that opens no document is logged, and a document
is broken off by a line that does not continue it. -/
inductive Segmented : List (List Char) → List Segment → List (List Char) → Prop
  | pending {lines : List (List Char)} (unfinished : Unfinished lines) : Segmented lines [] lines
  | logged {line : List Char} {rest pending : List (List Char)} {segments : List Segment} (plain : ¬ Opening line)
    (behind : Segmented rest segments pending) : Segmented (line :: rest) (.logged line :: segments) pending
  | broken {lines rest pending : List (List Char)} {line : List Char} {segments : List Segment} (some : lines ≠ [])
    (unfinished : Unfinished lines) (breaks : ¬ Continuing line) (behind : Segmented (line :: rest) segments pending) :
    Segmented (lines ++ line :: rest) (.broken lines :: segments) pending
  | document {lines rest pending : List (List Char)} {segments : List Segment} (finished : Finished lines)
    (behind : Segmented rest segments pending) : Segmented (lines ++ rest) (.document lines :: segments) pending

theorem Segmented.unfinished {lines pending : List (List Char)} {segments : List Segment}
    (segmented : Segmented lines segments pending) : Unfinished pending := by
  induction segmented with
  | pending unfinished => exact unfinished
  | logged _ _ ih => exact ih
  | broken _ _ _ _ ih => exact ih
  | document _ _ ih => exact ih

/-! ### There is one way only to tell lines apart -/

theorem Finished.ne_nil {lines : List (List Char)} (finished : Finished lines) : lines ≠ [] := by
  rintro rfl
  exact Bool.noConfusion finished.ended

theorem Printed.opening {lines : List (List Char)} (printed : Printed lines) (some : lines ≠ []) {line : List Char}
    {rest behind : List (List Char)} (same : lines ++ behind = line :: rest) : Opening line := by
  cases lines with
  | nil => exact absurd rfl some
  | cons first later =>
    cases same
    exact printed.1

/-- Lines of one document end before a line that does not continue it. -/
theorem Printed.within {lines rest other : List (List Char)} {line : List Char} (printed : Printed other)
    (some : lines ≠ []) (breaks : ¬ Continuing line) (front : other <+: lines ++ line :: rest) : other <+: lines := by
  obtain ⟨first, later, rfl⟩ := List.exists_cons_of_ne_nil some
  have apart (more : List (List Char)) : other ≠ first :: later ++ line :: more := by
    rintro rfl
    exact breaks (printed.2 line (List.mem_append_right _ List.mem_cons_self))
  have ahead : first :: later ++ [line] <+: first :: later ++ line :: rest := by simp
  rcases List.prefix_or_prefix_of_prefix front ahead with shorter | ⟨more, longer⟩
  · exact (List.prefix_concat_iff.mp shorter).resolve_left (apart [])
  · exact absurd longer.symm (by simpa using apart more)

theorem Finished.eq {lines other rest behind : List (List Char)} (one : Finished lines) (another : Finished other)
    (same : lines ++ rest = other ++ behind) : lines = other := by
  have front : lines <+: other ++ behind := ⟨rest, same⟩
  rcases List.prefix_or_prefix_of_prefix front (List.prefix_append other behind) with shorter | longer
  · exact Classical.byContradiction fun different => another.going lines shorter different one.ended
  · exact Classical.byContradiction fun different => one.going other longer (Ne.symm different) another.ended

namespace Segmented
variable {lines rest pending : List (List Char)} {line : List Char} {segments : List Segment}

theorem of_unfinished (unfinished : Unfinished lines) (segmented : Segmented lines segments pending) :
    segments = [] ∧ pending = lines := by
  cases segmented with
  | pending => exact ⟨rfl, rfl⟩
  | logged plain => exact absurd unfinished.printed.1 plain
  | broken some earlier breaks =>
    have front := unfinished.printed.within some breaks List.prefix_rfl
    exact absurd front.length_le (by simp)
  | document finished => exact absurd finished.ended (unfinished.going _ (List.prefix_append _ _))

theorem of_plain (plain : ¬ Opening line) (segmented : Segmented (line :: rest) segments pending) :
    ∃ later, segments = .logged line :: later ∧ Segmented rest later pending := by
  generalize shape : line :: rest = all at segmented
  cases segmented with
  | pending unfinished =>
    cases shape
    exact absurd unfinished.printed.1 plain
  | logged _ behind =>
    cases shape
    exact ⟨_, rfl, behind⟩
  | broken some unfinished => exact absurd (unfinished.printed.opening some shape.symm) plain
  | document finished => exact absurd (finished.printed.opening finished.ne_nil shape.symm) plain

theorem of_broken (some : lines ≠ []) (unfinished : Unfinished lines) (breaks : ¬ Continuing line)
    (segmented : Segmented (lines ++ line :: rest) segments pending) :
    ∃ later, segments = .broken lines :: later ∧ Segmented (line :: rest) later pending := by
  generalize shape : lines ++ line :: rest = all at segmented
  cases segmented with
  | pending longer =>
    have front := longer.printed.within some breaks ⟨[], by rw [shape, List.append_nil]⟩
    exact absurd front.length_le (by simp [← shape])
  | logged plain => exact absurd (unfinished.printed.opening some shape) plain
  | broken some' unfinished' breaks' behind =>
    have one := unfinished.printed.within some' breaks' ⟨_, shape⟩
    have other := unfinished'.printed.within some breaks ⟨_, shape.symm⟩
    obtain rfl := one.eq_of_length_le other.length_le
    cases List.append_cancel_left shape
    exact ⟨_, rfl, behind⟩
  | document finished =>
    have front := finished.printed.within some breaks ⟨_, shape.symm⟩
    exact absurd finished.ended (unfinished.going _ front)

theorem of_finished (finished : Finished lines) (segmented : Segmented (lines ++ rest) segments pending) :
    ∃ later, segments = .document lines :: later ∧ Segmented rest later pending := by
  generalize shape : lines ++ rest = all at segmented
  cases segmented with
  | pending unfinished => exact absurd finished.ended (unfinished.going _ ⟨_, shape⟩)
  | logged plain => exact absurd (finished.printed.opening finished.ne_nil shape) plain
  | broken some unfinished breaks =>
    have front := finished.printed.within some breaks ⟨_, shape⟩
    exact absurd finished.ended (unfinished.going _ front)
  | document finished' behind =>
    obtain rfl := finished.eq finished' shape
    cases List.append_cancel_left shape
    exact ⟨_, rfl, behind⟩

theorem unique {others : List Segment} {remainder : List (List Char)} (one : Segmented lines segments pending)
    (other : Segmented lines others remainder) : others = segments ∧ remainder = pending := by
  induction one generalizing others with
  | pending unfinished => exact other.of_unfinished unfinished
  | logged plain _ ih =>
    obtain ⟨later, rfl, behind⟩ := other.of_plain plain
    exact ⟨congrArg _ (ih behind).1, (ih behind).2⟩
  | broken some unfinished breaks _ ih =>
    obtain ⟨later, rfl, behind⟩ := other.of_broken some unfinished breaks
    exact ⟨congrArg _ (ih behind).1, (ih behind).2⟩
  | document finished _ ih =>
    obtain ⟨later, rfl, behind⟩ := other.of_finished finished
    exact ⟨congrArg _ (ih behind).1, (ih behind).2⟩

end Segmented

/-- The document that some lines have begun. -/
def begun : List (List Char) → Option Document
  | [] => none
  | first :: later => some ((first :: later).foldl Document.append {})

/-- The reports of the output lines alone. -/
def outputReports (transcript : Transcript) : List Input → List Report
  | [] => []
  | .output line :: later => (transcript.outputLine line).2 ++ outputReports (transcript.outputLine line).1 later
  | input :: later => outputReports (transcript.take input).1 later

theorem Printed.snoc {first line : List Char} {later : List (List Char)} (printed : Printed (first :: later))
    (continued : Continuing line) : Printed (first :: later ++ [line]) := by
  refine ⟨printed.1, fun other member => ?_⟩
  rcases List.mem_append.mp member with before | last
  · exact printed.2 other before
  · cases List.mem_singleton.mp last
    exact continued

theorem Unfinished.nil : Unfinished [] where
  printed := trivial
  going := by
    intro front within
    rw [List.prefix_nil.mp within]
    exact Bool.noConfusion

namespace Unfinished
variable {lines : List (List Char)} {line : List Char} (unfinished : Unfinished lines) (printed : Printed (lines ++ [line]))
include unfinished printed

theorem snoc (going : ¬ Balanced (lines ++ [line])) : Unfinished (lines ++ [line]) where
  printed := printed
  going := by
    intro front within
    rcases List.prefix_concat_iff.mp within with rfl | before
    · exact going
    · exact unfinished.going front before

theorem finish (ended : Balanced (lines ++ [line])) : Finished (lines ++ [line]) where
  printed := printed
  ended := ended
  going := by
    intro front within other
    rcases List.prefix_concat_iff.mp within with same | before
    · exact absurd same other
    · exact unfinished.going front before

end Unfinished

/-- A transcript whose pending document consists of some lines. -/
structure Holding (lines : List (List Char)) (transcript : Transcript) : Prop where
  unfinished : Unfinished lines
  whole : ∀ line ∈ lines, '\n' ∉ line
  pending : transcript.pending = begun lines

namespace Holding
variable {lines : List (List Char)} {transcript : Transcript}

theorem idle (none : transcript.pending = none) : Holding [] transcript := ⟨.nil, List.forall_mem_nil _, none⟩

theorem givenBack (holding : Holding lines transcript) : transcript.givenBack = (Segment.broken lines).reports := by
  have pending := holding.pending
  cases lines with
  | nil => simp only [Transcript.givenBack, pending, begun, Segment.reports, List.map_nil]
  | cons first later => exact givenBack_lines pending holding.whole

/-- A line that is gathered closes its document, or is pending with the lines before it. -/
theorem gather (holding : Holding lines transcript) {line : List Char} (printed : Printed (lines ++ [line]))
    (single : '\n' ∉ line) :
    let result := transcript.gather (lines.foldl Document.append {}) line
    Finished (lines ++ [line]) ∧ Holding [] result.1 ∧ result.2 = (Segment.document (lines ++ [line])).reports ∨
      Holding (lines ++ [line]) result.1 ∧ result.2 = [] := by
  intro result
  have gathered : (lines.foldl Document.append {}).append line = (lines ++ [line]).foldl Document.append {} := by simp
  have text : ((lines ++ [line]).foldl Document.append {}).text = joined (lines ++ [line]) := gathered_text _ {}
  by_cases ended : Balanced (lines ++ [line])
  · have closed : result = (⟨false, none⟩, closingReports (joined (lines ++ [line]))) := by
      simp only [result, Transcript.gather, gathered, text]
      exact if_pos ended
    rw [closed]
    exact .inl ⟨holding.unfinished.finish printed ended, .idle rfl, rfl⟩
  · have kept : result = ({ transcript with pending := some ((lines ++ [line]).foldl Document.append {}) }, []) := by
      simp only [result, Transcript.gather, gathered]
      exact if_neg ended
    rw [kept]
    refine .inr ⟨⟨holding.unfinished.snoc printed ended, ?_, ?_⟩, rfl⟩
    · exact List.forall_mem_append.mpr ⟨holding.whole, List.forall_mem_singleton.mpr single⟩
    · cases lines <;> rfl

end Holding

/-! ### Runs -/

/-- Some lines are told by some reports, but for those that a transcript still holds. -/
def Accounted (lines : List (List Char)) (reports : List Report) (transcript : Transcript) : Prop :=
  ∃ segments pending, Segmented lines segments pending ∧ reports = segments.flatMap Segment.reports ∧
    transcript.pending = begun pending

/-- What a transcript with some pending lines tells of them and of all that comes behind them. -/
def AccountsFor (inputs : List Input) (lines : List (List Char)) (transcript : Transcript) : Prop :=
  Accounted (lines ++ outputLines inputs) (outputReports transcript inputs) (transcript.run inputs).1

section
variable {inputs : List Input} (later : ∀ {lines transcript}, Holding lines transcript → AccountsFor inputs lines transcript)
include later

theorem Holding.gathered {lines : List (List Char)} {transcript : Transcript} (holding : Holding lines transcript)
    {line : String} (printed : Printed (lines ++ [line.toList])) (single : '\n' ∉ line.toList)
    (step : transcript.outputLine line = transcript.gather (lines.foldl Document.append {}) line.toList) :
    AccountsFor (.output line :: inputs) lines transcript := by
  have shape : lines ++ outputLines (.output line :: inputs) = lines ++ [line.toList] ++ outputLines inputs := by
    simp [outputLines]
  simp only [AccountsFor, shape, outputReports, run, take, step]
  rcases holding.gather printed single with ⟨finished, idle, told⟩ | ⟨kept, silent⟩
  · obtain ⟨segments, pending, segmented, reports, held⟩ := later idle
    exact ⟨_, pending, .document finished segmented, by rw [told, reports]; rfl, held⟩
  · rw [silent]
    exact later kept

/-- A line that finds nothing pending is logged, or opens a document. -/
theorem accountsFor_plain {transcript : Transcript} (none : transcript.pending = none) {line : String}
    (single : '\n' ∉ line.toList) : AccountsFor (.output line :: inputs) [] transcript := by
  have holding : Holding [] transcript := .idle none
  have alone : transcript.outputLine line = transcript.plainLine line := by simp only [outputLine, none]
  by_cases opening : Opening line.toList
  · refine holding.gathered later ⟨opening, List.forall_mem_nil _⟩ single ?_
    rw [alone, plainLine, if_pos ((opens_iff _).mpr opening)]
    rfl
  · have logged : transcript.outputLine line = (transcript, [.line line]) := by
      rw [alone, plainLine, if_neg (mt (opens_iff _).mp opening)]
    obtain ⟨segments, pending, segmented, reports, held⟩ := later holding
    refine ⟨_, pending, .logged opening segmented, ?_, ?_⟩
    · simp only [outputReports, logged, reports, List.flatMap_cons, Segment.reports, String.ofList_toList]
    · simpa only [run, take, logged] using held

/-- A line continues what is pending, or gives it back and stands for itself. -/
theorem Holding.outputLine {lines : List (List Char)} {transcript : Transcript} (holding : Holding lines transcript)
    {line : String} (single : '\n' ∉ line.toList) : AccountsFor (.output line :: inputs) lines transcript := by
  cases lines with
  | nil => exact accountsFor_plain later holding.pending single
  | cons first more =>
    by_cases continuing : Continuing line.toList
    · have printed := holding.unfinished.printed.snoc continuing
      refine holding.gathered later printed single ?_
      simp only [Transcript.outputLine, holding.pending, begun, (continues_iff _).mpr continuing, if_true]
    · have broken : Document.continues line.toList = false :=
        Bool.eq_false_iff.mpr (mt (continues_iff _).mp continuing)
      -- what is behind the pending lines is told as if nothing had been pending
      have emptied : ({ transcript with pending := none } : Transcript).pending = none := rfl
      obtain ⟨segments, pending, segmented, reports, held⟩ := accountsFor_plain later emptied single
      have broke : transcript.outputLine line = _ := outputLine_broken transcript broken
      refine ⟨_, pending, .broken (List.cons_ne_nil first more) holding.unfinished continuing segmented, ?_, ?_⟩
      · rw [List.flatMap_cons, ← reports, ← holding.givenBack]
        simp only [outputReports, broke, List.append_assoc]
        rfl
      · simp only [run, take, broke]
        exact held

end

end BuildWatch.Tool.Transcript
