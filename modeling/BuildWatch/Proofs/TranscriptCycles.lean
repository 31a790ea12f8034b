import BuildWatch.Proofs.TranscriptSegments
import BuildWatch.Proofs.TranscriptTicks
import Mathlib.Data.List.Induction

/-! The cycle that a transcript reports for every build. The first tick of progress is preceded by its start, later ones
stand alone, and the end comes with exactly one result. Whether a build is underway is read off what has been exchanged
so far: there was a tick, and since then neither a reset nor an end. -/

namespace BuildWatch.Tool.Transcript
open BuildWatch.Text

/-! ### Exchanges -/

/-- A piece of input with its reports. -/
abbrev Exchange := Input × List Report

def exchanges (transcript : Transcript) (inputs : List Input) : List Exchange := inputs.zip (transcript.run inputs).2

theorem exchanges_cons (transcript : Transcript) (input : Input) (later : List Input) :
    transcript.exchanges (input :: later) =
      (input, (transcript.take input).2) :: (transcript.take input).1.exchanges later := rfl

def Exchange.Begins (exchange : Exchange) : Prop :=
  ∃ line digits, exchange.1 = .error line ∧ Ticks line.toList digits

def Exchange.Ends (exchange : Exchange) : Prop :=
  exchange.1 = .reset ∨ ∃ percent, .progress percent true ∈ exchange.2

/-- There was a tick, and since then neither a reset nor the end of a build. -/
def Underway (history : List Exchange) : Prop :=
  ∃ earlier tick later, history = earlier ++ tick :: later ∧ tick.Begins ∧ ∀ exchange ∈ later, ¬ exchange.Ends

theorem underway_snoc {history : List Exchange} {exchange : Exchange} :
    Underway (history ++ [exchange]) ↔ exchange.Begins ∨ Underway history ∧ ¬ exchange.Ends := by
  constructor
  · rintro ⟨earlier, tick, later, shape, begins, going⟩
    -- the last exchange is the tick itself, or one of those behind it
    rcases List.eq_nil_or_concat later with rfl | ⟨front, last, rfl⟩
    · obtain ⟨-, rfl⟩ := List.append_singleton_inj.mp shape
      exact Or.inl begins
    · rw [List.concat_eq_append, ← List.cons_append, ← List.append_assoc] at shape
      obtain ⟨rfl, rfl⟩ := List.append_singleton_inj.mp shape
      refine Or.inr ⟨⟨earlier, tick, front, rfl, begins, fun exchange member => ?_⟩, ?_⟩
      · exact going exchange (by simp [member])
      · exact going exchange (by simp)
  · rintro (begins | ⟨⟨earlier, tick, later, rfl, begins, going⟩, lasts⟩)
    · exact ⟨history, exchange, [], rfl, begins, by simp⟩
    · refine ⟨earlier, tick, later ++ [exchange], by simp, begins, fun other member => ?_⟩
      rcases List.mem_append.mp member with before | last
      · exact going other before
      · rwa [List.mem_singleton.mp last]

theorem exchanges_append (transcript : Transcript) (first second : List Input) :
    transcript.exchanges (first ++ second) =
      transcript.exchanges first ++ (transcript.run first).1.exchanges second := by
  induction first generalizing transcript with
  | nil => rfl
  | cons input later ih => simp only [List.cons_append, exchanges_cons, ih, run]

theorem run_append (transcript : Transcript) (first second : List Input) :
    (transcript.run (first ++ second)).1 = ((transcript.run first).1.run second).1 := by
  induction first generalizing transcript with
  | nil => rfl
  | cons input later ih => exact ih (transcript.take input).1

/-! ### What single inputs are answered with -/

def isResult : Report → Bool
  | .finished _ | .failure _ => true
  | _ => false

/-- What a line of output is answered with: lines as they are, and perhaps the end of a build behind them. -/
inductive Answered (before after : Transcript) : List Report → Prop
  | going (lines : List String) (same : after.building = before.building) : Answered before after (lines.map .line)
  | ended (lines : List String) (text : List Char) (settled : after.building = false) :
      Answered before after (lines.map .line ++ [.progress 100 true, answer text])

theorem Answered.behind {before between after : Transcript} {reports : List Report} (answered : Answered between after reports)
    (same : between.building = before.building) (lines : List String) :
    Answered before after (lines.map .line ++ reports) := by
  cases answered with
  | going more still =>
    rw [← List.map_append]
    exact .going (lines ++ more) (still.trans same)
  | ended more text settled =>
    rw [← List.append_assoc, ← List.map_append]
    exact .ended (lines ++ more) text settled

theorem gather_answered (transcript : Transcript) (document : Document) (line : List Char) :
    Answered transcript (transcript.gather document line).1 (transcript.gather document line).2 := by
  unfold gather
  simp only
  split
  next => exact .ended [] (document.append line).text rfl
  next => exact .going [] rfl

theorem plainLine_answered (transcript : Transcript) (line : String) :
    Answered transcript (transcript.plainLine line).1 (transcript.plainLine line).2 := by
  unfold plainLine
  split
  next => exact gather_answered transcript {} line.toList
  next => exact .going [line] rfl

theorem givenBack_map (transcript : Transcript) : ∃ lines : List String, transcript.givenBack = lines.map .line := by
  unfold givenBack
  split
  next => exact ⟨[], rfl⟩
  next document _ => exact ⟨(splitLines document.text).map String.ofList, by simp [Function.comp_def]⟩

theorem outputLine_answered (transcript : Transcript) (line : String) :
    Answered transcript (transcript.outputLine line).1 (transcript.outputLine line).2 := by
  cases continued : Document.continues line.toList with
  | true =>
    unfold outputLine
    split
    next => exact plainLine_answered transcript line
    next document _ =>
      rw [if_pos continued]
      exact gather_answered transcript document line.toList
  | false =>
    obtain ⟨lines, given⟩ := transcript.givenBack_map
    rw [outputLine_broken transcript continued, given]
    exact Answered.behind (plainLine_answered _ line) (by rfl) lines

/-! ### The cycle -/

/-- Reports in which builds end properly: at a hundred percent and with one result behind it, which comes nowhere else. -/
structure Resolved (reports : List Report) : Prop where
  bounded : ∀ percent done, .progress percent done ∈ reports → percent ≤ 100 ∧ (done = true → percent = 100)
  resolved : ∀ front percent back, reports = front ++ .progress percent true :: back →
    ∃ result, isResult result = true ∧ back = [result]
  announced : ∀ front result back, isResult result = true → reports = front ++ result :: back →
    ∃ start, front = start ++ [.progress 100 true]

/-- What the next piece of input may be answered with, after what has been exchanged before. A tick tells its percentage, with
the start of a build in front of it if none is underway. -/
structure Cycled (history : List Exchange) (input : Input) (reports : List Report) : Prop extends Resolved reports where
  ticked : ∀ line digits, input = .error line → Ticks line.toList digits → ∃ percent : UInt8,
    percent.toNat = min 100 ((number? digits).getD 100) ∧
      (Underway history → reports = [.progress percent false]) ∧
      (¬ Underway history → reports = [.progress 0 false, .progress percent false])
  silent : ∀ percent, .progress percent false ∈ reports → Exchange.Begins (input, reports)

/-- Reports that end no build have nothing to resolve. -/
theorem Resolved.of_unfinished {reports : List Report}
    (unfinished : ∀ report ∈ reports, isResult report = false ∧
      ∀ percent done, report = .progress percent done → percent ≤ 100 ∧ done = false) : Resolved reports where
  bounded percent done member := by
    obtain ⟨small, rfl⟩ := (unfinished _ member).2 percent done rfl
    exact ⟨small, nofun⟩
  resolved front percent back shape := by cases ((unfinished _ (by simp [shape])).2 percent true rfl).2
  announced front result back isResult shape := by
    rw [(unfinished result (by simp [shape])).1] at isResult
    cases isResult

theorem split_behind {report : Report} (other : ∀ line, report ≠ .line line) {lines : List String}
    {closing front back : List Report} (shape : lines.map .line ++ closing = front ++ report :: back) :
    ∃ more, front = lines.map .line ++ more ∧ closing = more ++ report :: back := by
  induction lines generalizing front with
  | nil => exact ⟨front, rfl, shape⟩
  | cons line later ih =>
    cases front with
    | nil => exact absurd (List.cons.inj shape).1.symm (other line)
    | cons first front =>
      obtain ⟨more, rfl, rest⟩ := ih (List.cons.inj shape).2
      obtain ⟨rfl, -⟩ := List.cons.inj shape
      exact ⟨more, rfl, rest⟩

theorem answer_isResult (text : List Char) : isResult (answer text) = true := by
  unfold answer
  split <;> rfl

theorem progress_ne_answer (percent : UInt8) (done : Bool) (text : List Char) :
    Report.progress percent done ≠ answer text := by
  intro same
  have result := answer_isResult text
  rw [← same] at result
  cases result

theorem Answered.not_line {before after : Transcript} {reports : List Report} (answered : Answered before after reports)
    {report : Report} (other : ∀ line, report ≠ .line line) {front back : List Report}
    (shape : reports = front ++ report :: back) : ∃ (lines : List String) (text : List Char),
      front = lines.map .line ∧ report = .progress 100 true ∧ back = [answer text] ∨
      front = lines.map .line ++ [.progress 100 true] ∧ report = answer text ∧ back = [] := by
  cases answered with
  | going lines same =>
    rw [← List.append_nil (lines.map _)] at shape
    obtain ⟨more, -, rest⟩ := split_behind other shape
    simp at rest
  | ended lines text settled =>
    obtain ⟨more, rfl, rest⟩ := split_behind other shape
    refine ⟨lines, text, ?_⟩
    match more, rest with
    | [], rest =>
      obtain ⟨rfl, rfl⟩ := List.cons.inj rest
      exact Or.inl ⟨List.append_nil _, rfl, rfl⟩
    | [_], rest =>
      obtain ⟨rfl, rest⟩ := List.cons.inj rest
      cases rest
      exact Or.inr ⟨rfl, rfl, rfl⟩
    | _ :: _ :: more, rest => simp at rest

theorem Answered.progress {before after : Transcript} {reports : List Report} (answered : Answered before after reports)
    {percent : UInt8} {done : Bool} (member : .progress percent done ∈ reports) : percent = 100 ∧ done = true := by
  obtain ⟨front, back, shape⟩ := List.append_of_mem member
  obtain ⟨lines, text, ⟨-, same, -⟩ | ⟨-, same, -⟩⟩ := answered.not_line (by rintro line ⟨⟩) shape
  · cases same
    exact ⟨rfl, rfl⟩
  · exact absurd same (progress_ne_answer percent done text)

theorem Answered.resolved {before after : Transcript} {reports : List Report} (answered : Answered before after reports) :
    Resolved reports where
  bounded percent done member := by
    obtain ⟨rfl, rfl⟩ := answered.progress member
    exact ⟨by decide, fun _ => rfl⟩
  resolved front percent back shape := by
    obtain ⟨lines, text, ⟨-, -, rfl⟩ | ⟨-, same, -⟩⟩ := answered.not_line (by rintro line ⟨⟩) shape
    · exact ⟨answer text, answer_isResult text, rfl⟩
    · exact absurd same (progress_ne_answer percent true text)
  announced front result back isResult shape := by
    obtain ⟨lines, text, ⟨-, rfl, -⟩ | ⟨rfl, -, -⟩⟩ := answered.not_line (by rintro line rfl; cases isResult) shape
    · cases isResult
    · exact ⟨_, rfl⟩

theorem Answered.building {before after : Transcript} {reports : List Report} (answered : Answered before after reports) :
    after.building = true ↔ before.building = true ∧ ¬ ∃ percent, .progress percent true ∈ reports := by
  cases answered with
  | going lines same =>
    rw [same]
    exact ⟨fun going => ⟨going, by simp [Report.line]⟩, And.left⟩
  | ended lines text settled =>
    rw [settled]
    exact ⟨nofun, fun lasts => absurd ⟨100, by simp⟩ lasts.2⟩

theorem take_building (transcript : Transcript) (input : Input) :
    (transcript.take input).1.building = true ↔ Exchange.Begins (input, (transcript.take input).2) ∨
      transcript.building = true ∧ ¬ Exchange.Ends (input, (transcript.take input).2) := by
  cases input with
  | output line =>
    simp only [take, Exchange.Begins, Exchange.Ends, (transcript.outputLine_answered line).building]
    simp
  | error line =>
    by_cases ticks : ∃ digits, Ticks line.toList digits
    · obtain ⟨digits, ticks⟩ := ticks
      have building : (transcript.take (.error line)).1.building = true := by simp only [take, errorLine_tick ticks]
      exact ⟨fun _ => Or.inl ⟨line, digits, rfl, ticks⟩, fun _ => building⟩
    · rw [not_exists] at ticks
      simp [Exchange.Begins, Exchange.Ends, take, errorLine_silent ticks, ticks, Report.errorLine]
  | reset => simp [take, Exchange.Begins, Exchange.Ends]

theorem building_iff_underway (inputs : List Input) :
    (run {} inputs).1.building = true ↔ Underway (exchanges {} inputs) := by
  induction inputs using List.reverseRecOn with
  | nil => simp [run, exchanges, Underway]
  | append_singleton front input ih =>
    rw [run_append, exchanges_append, exchanges_cons]
    simp only [run, take_building, ih]
    exact underway_snoc.symm

theorem errorLine_cycled {transcript : Transcript} {history : List Exchange}
    (knows : transcript.building = true ↔ Underway history) (line : String) :
    Cycled history (.error line) (transcript.errorLine line).2 := by
  by_cases ticks : ∃ digits, Ticks line.toList digits
  · obtain ⟨digits, ticks⟩ := ticks
    refine ⟨.of_unfinished fun report member => ?_, ?_, fun _ _ => ⟨line, digits, rfl, ticks⟩⟩
    · obtain ⟨percent, small, rfl⟩ := errorLine_progress ticks member
      refine ⟨rfl, fun _ _ same => ?_⟩
      cases same
      exact ⟨small, rfl⟩
    · rintro _ others ⟨⟩ others_tick
      cases Option.some.inj ((progressDigits_eq_some.mpr ticks).symm.trans (progressDigits_eq_some.mpr others_tick))
      rw [errorLine_tick ticks]
      refine ⟨percentage digits, percentage_toNat digits, fun underway => ?_, fun idle => ?_⟩
      · exact if_pos (knows.mpr underway)
      · exact if_neg (idle ∘ knows.mp)
  · rw [not_exists] at ticks
    rw [errorLine_silent ticks]
    refine ⟨.of_unfinished ?_, ?_, ?_⟩
    · simp [Report.errorLine, isResult]
    · rintro _ digits ⟨⟩ found
      exact absurd found (ticks digits)
    · simp [Report.errorLine]

theorem take_cycled {transcript : Transcript} {history : List Exchange}
    (knows : transcript.building = true ↔ Underway history) (input : Input) :
    Cycled history input (transcript.take input).2 := by
  cases input with
  | output line =>
    have answered := transcript.outputLine_answered line
    exact ⟨answered.resolved, nofun, fun percent member => by cases (answered.progress member).2⟩
  | error line => exact errorLine_cycled knows line
  | reset => exact ⟨.of_unfinished (by simp [take]), nofun, by simp [take]⟩

/-- Whatever is fed to a transcript, builds go in cycles. The first tick after the beginning, a reset or an end is reported
with the start of a build in front of it, and every other tick by itself. An end is at a hundred percent and has exactly one
result right behind it, and there are no results and no progress besides. -/
theorem builds_go_in_cycles (earlier : List Input) (input : Input) (later : List Input) :
    ∃ reports rest, exchanges {} (earlier ++ input :: later) = exchanges {} earlier ++ (input, reports) :: rest ∧
      Cycled (exchanges {} earlier) input reports := by
  refine ⟨_, _, exchanges_append {} earlier (input :: later), ?_⟩
  exact take_cycled (building_iff_underway earlier) input

/-- Two builds. The second one starts anew, and its number is too great for a percentage. -/
example : (run {} [.error "[webpack.Progress] 10%", .error "[webpack.Progress] 20%", .output "\x7b\x7d",
    .error "[webpack.Progress] 300%"]).2 =
      [[.progress 0 false, .progress 10 false], [.progress 20 false], [.progress 100 true, .finished ⟨[], []⟩],
        [.progress 0 false, .progress 100 false]] := by rfl

end BuildWatch.Tool.Transcript
