import BuildWatch.Proofs.DialectLines
import BuildWatch.Proofs.WatchDiagnostics

/-! Problems that no loader has announced. The first word is the file, whatever it looks like, so only a problem that opens with a
space says nothing. Behind the word, one space and two numbers are the position, and all else is left alone. -/

namespace BuildWatch.Dialect
open BuildWatch.Text

/-! ### Figures -/

/-- What a run of digits counts. Digits of other scripts count as the largest position, and so does what lies beyond it. -/
def figure (digits : List Char) : Nat :=
  if digits.all isAsciiDigit then min (Nat.ofDigitChars 10 digits 0) (UInt32.size - 1) else UInt32.size - 1

theorem number_figure (digits : List Char) : (number digits).toNat = figure digits := by
  cases ascii : digits.all isAsciiDigit with
  | true => rw [figure, if_pos ascii, number_toNat (List.all_eq_true.mp ascii)]
  | false =>
    simp only [figure, number, ascii, Bool.false_and, Bool.false_eq_true, if_false]
    rfl

/-! ### The first word -/

/-- A text and its first word, which is as long as it can be. -/
structure Opens (text word rest : List Char) : Prop where
  text : text = word ++ rest
  given : word ≠ []
  solid : ∀ c ∈ word, isSpace c = false
  stops : ∀ c, rest.head? = some c → isSpace c = true

theorem Opens.plain {text word rest : List Char} (opens : Opens text word rest) :
    plain text = some ⟨word, ((plainPosition rest).getD (['1'], ['1'])).1, ((plainPosition rest).getD (['1'], ['1'])).2,
      (cutLine text).2.getD []⟩ := by
  have solid : ∀ c ∈ word, (!isSpace c) = true := by
    intro c member
    rw [opens.solid c member]
    rfl
  have stops : ∀ c, rest.head? = some c → (!isSpace c) = false := by
    intro c first
    rw [opens.stops c first]
    rfl
  obtain ⟨taken, dropped⟩ := takeWhile_stops solid stops
  obtain ⟨c, later, shape⟩ := List.exists_cons_of_ne_nil opens.given
  rw [← opens.text] at taken dropped
  rw [Dialect.plain, taken, dropped, shape]

/-- One space, two numbers as far as they go, and a colon between them. -/
inductive Behind : List Char → List Char → List Char → Prop
  | position {space : Char} {line column rest : List Char} (spaced : isSpace space = true) (lined : Digits line)
      (columned : Digits column) (stops : Undigited rest) : Behind (space :: (line ++ ':' :: (column ++ rest))) line column

theorem plainPosition_eq_some_iff {text line column : List Char} :
    plainPosition text = some (line, column) ↔ Behind text line column := by
  constructor
  · intro found
    cases text with
    | nil => cases found
    | cons space behind =>
      obtain ⟨rest, rfl, lined, columned, stops⟩ := plainPosition_eq_some found
      cases spaced : isSpace space with
      | true => exact .position spaced lined columned stops
      | false => simp [plainPosition, spaced] at found
  · rintro ⟨spaced, lined, columned, stops⟩
    exact plainPosition_digits spaced lined.counted lined.all columned.counted columned.all stops

/-- A text, and what follows its first line feed. -/
inductive BelowLine : List Char → List Char → Prop
  | feed {line : List Char} (whole : '\n' ∉ line) (below : List Char) : BelowLine (line ++ '\n' :: below) below
  | single {line : List Char} (whole : '\n' ∉ line) : BelowLine line []

theorem cutLine_single {line : List Char} (whole : '\n' ∉ line) : (cutLine line).2 = none := by
  rw [Option.eq_none_iff_forall_ne_some]
  intro below cut
  rw [cutLine_rest cut] at whole
  exact whole (List.mem_append_right _ List.mem_cons_self)

theorem belowLine_iff {text below : List Char} : BelowLine text below ↔ (cutLine text).2.getD [] = below := by
  constructor
  · rintro (⟨whole⟩ | ⟨whole⟩)
    · rw [cutLine_line whole]
      rfl
    · rw [cutLine_single whole]
      rfl
  · rintro rfl
    by_cases feed : '\n' ∈ text
    · obtain ⟨line, below, rfl, whole⟩ := List.eq_append_cons_of_mem feed
      rw [cutLine_line whole]
      exact .feed whole below
    · rw [cutLine_single feed]
      exact .single feed

/-- What is made of a problem with a first word, and of what stands behind the word on its line. -/
structure WordTaken (problem : String) (word rest : List Char) (root : Path) (diagnostic : Diagnostic) : Prop where
  file : diagnostic.file = resolve ⟨String.ofList word⟩ root
  message : BelowLine problem.toList diagnostic.message.toList
  placed : rest.head? ≠ some '\n' → ∀ line column, Behind rest line column →
    diagnostic.span.start.line.toNat = figure line - 1 ∧ diagnostic.span.start.character.toNat = figure column - 1
  unplaced : rest.head? ≠ some '\n' → (¬ ∃ line column, Behind rest line column) → diagnostic.span.start = ⟨0, 0⟩

theorem Opens.diagnosed {problem : String} {word rest : List Char} (opens : Opens problem.toList word rest)
    (unheaded : loader problem.toList = none) (severity : Severity) (root : Path) : ∃ diagnostic,
    diagnose severity problem root = some diagnostic ∧ WordTaken problem word rest root diagnostic := by
  have located : locate problem.toList = Dialect.plain problem.toList := by rw [locate, unheaded, Option.none_or]
  refine ⟨_, by rw [diagnose, located, opens.plain, Option.map_some], ?_, ?_, ?_, ?_⟩
  · rfl
  · simp only [Location.diagnostic, String.toList_ofList]
    exact belowLine_iff.mpr rfl
  · intro _ line column behind
    have placed := plainPosition_eq_some_iff.mpr behind
    simp only [Location.diagnostic, Span.point, placed, Option.getD_some, fromZero_toNat, number_figure]
    exact ⟨trivial, trivial⟩
  · intro _ nowhere
    have unplaced : plainPosition rest = none := by
      rw [Option.eq_none_iff_forall_ne_some]
      rintro ⟨line, column⟩ found
      exact nowhere ⟨line, column, plainPosition_eq_some_iff.mp found⟩
    have zero : fromZero (number ['1']) = 0 := by decide
    simp only [Location.diagnostic, Span.point, unplaced, Option.getD_none, zero]

end BuildWatch.Dialect

namespace BuildWatch.Watch
open Dialect

end BuildWatch.Watch
