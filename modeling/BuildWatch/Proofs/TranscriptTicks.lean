import BuildWatch.Tool.Transcript
import BuildWatch.Text.Ascii
import Mathlib.Data.List.Basic
import Mathlib.Data.List.TakeWhile

/-! Ticks of progress. A line of the error stream has one where a mark is followed by a percentage, and the first such
place counts. What it reports is the number written there, at most a hundred. -/

namespace BuildWatch.Tool.Transcript
open BuildWatch.Text

/-- A text that begins with space, one to three digits and a percent sign. -/
def Percents (digits text : List Char) : Prop :=
  ∃ space after, text = space ++ (digits ++ '%' :: after) ∧ space ≠ [] ∧ (∀ c ∈ space, isSpace c = true) ∧
    digits ≠ [] ∧ digits.length ≤ 3 ∧ ∀ c ∈ digits, isDigit c = true

/-- A text that begins with the mark and a percentage. -/
def Marks (digits text : List Char) : Prop := ∃ rest, text = progressMark ++ rest ∧ Percents digits rest

/-- A line with a marked percentage somewhere in it. If there are several, the first one counts. -/
def Ticks (line digits : List Char) : Prop :=
  ∃ before text, line = before ++ text ∧ Marks digits text ∧
    ∀ earlier rest other, line = earlier ++ rest → Marks other rest → before.length ≤ earlier.length

/-- What digits write, where eight bits can hold it. Only plain digits write anything. -/
def number? (digits : List Char) : Option Nat :=
  if digits.all isAsciiDigit && Ascii.number 10 digits < 256 then some (Ascii.number 10 digits) else none

theorem dropMark_eq_some {mark text rest : List Char} : dropMark mark text = some rest ↔ text = mark ++ rest := by
  induction mark generalizing text with
  | nil => cases text <;> simp [dropMark]
  | cons expected mark ih =>
    cases text with
    | nil => simp [dropMark]
    | cons c text =>
      simp only [dropMark, List.cons_append, List.cons.injEq]
      split
      next same => simp [ih, same]
      next other => simp [other]

private theorem isDigit_eq_false {c : Char} (low high : Nat) (within : low ≤ c.toNat ∧ c.toNat ≤ high)
    (apart : ∀ start ∈ digitZeros, start + 10 ≤ low ∨ high < start) : isDigit c = false := by
  refine List.any_eq_false.mpr fun start member => ?_
  have := apart start member
  simp only [Bool.and_eq_true, decide_eq_true_eq]
  omega

theorem not_digit_of_space {c : Char} (space : isSpace c = true) : isDigit c = false := by
  simp only [isSpace, Bool.or_eq_true, Bool.and_eq_true, decide_eq_true_eq, beq_iff_eq] at space
  rcases space with (((((((((within | same) | same) | same) | same) | within) | same) | same) | same) | same) | same
  · exact isDigit_eq_false 9 13 within (by decide)
  · exact isDigit_eq_false 0x20 0x20 (by omega) (by decide)
  · exact isDigit_eq_false 0x85 0x85 (by omega) (by decide)
  · exact isDigit_eq_false 0xa0 0xa0 (by omega) (by decide)
  · exact isDigit_eq_false 0x1680 0x1680 (by omega) (by decide)
  · exact isDigit_eq_false 0x2000 0x200a within (by decide)
  · exact isDigit_eq_false 0x2028 0x2028 (by omega) (by decide)
  · exact isDigit_eq_false 0x2029 0x2029 (by omega) (by decide)
  · exact isDigit_eq_false 0x202f 0x202f (by omega) (by decide)
  · exact isDigit_eq_false 0x205f 0x205f (by omega) (by decide)
  · exact isDigit_eq_false 0x3000 0x3000 (by omega) (by decide)

theorem percentDigits_eq_some {text digits : List Char} : percentDigits text = some digits ↔ Percents digits text := by
  constructor
  · intro found
    unfold percentDigits at found
    split at found
    next => cases found
    next c more spaced =>
      simp only at found
      split at found
      next => cases found
      next sized =>
        split at found
        next ended =>
          obtain ⟨after, left⟩ := List.head?_eq_some_iff.mp (eq_of_beq ended)
          simp only [Bool.or_eq_true, List.isEmpty_iff, decide_eq_true_eq, not_or, Nat.not_lt] at sized
          cases found
          refine ⟨text.takeWhile isSpace, after, ?_, ?_, fun c member => List.mem_takeWhile_imp member, sized.1, sized.2,
            fun c member => List.mem_takeWhile_imp member⟩
          · rw [← left, List.takeWhile_append_dropWhile, List.takeWhile_append_dropWhile]
          · rw [spaced]
            exact List.cons_ne_nil c more
        next => cases found
  · rintro ⟨space, after, rfl, spaced, spaces, counted, sized, plain⟩
    obtain ⟨digit, later, rfl⟩ := List.exists_cons_of_ne_nil counted
    -- the space ends where the digits begin, since nothing is both
    have first : isSpace digit = false := by
      rw [Bool.eq_false_iff]
      intro space
      have digital := plain digit List.mem_cons_self
      rw [not_digit_of_space space] at digital
      cases digital
    have unspaced : ∀ c, (digit :: (later ++ '%' :: after)).head? = some c → isSpace c = false := by simpa using first
    have undigited : ∀ c, ('%' :: after).head? = some c → isDigit c = false := by simpa using by decide
    obtain ⟨taken, dropped⟩ := takeWhile_stops spaces unspaced
    obtain ⟨all, ended⟩ := takeWhile_stops plain undigited
    obtain ⟨c, more, rfl⟩ := List.exists_cons_of_ne_nil spaced
    simp only [List.cons_append, List.length_cons] at taken dropped all ended sized
    simp [percentDigits, taken, dropped, all, ended, Nat.not_lt.mpr sized]

theorem marks_iff {text digits : List Char} :
    (dropMark progressMark text).bind percentDigits = some digits ↔ Marks digits text := by
  simp only [Option.bind_eq_some_iff, dropMark_eq_some, percentDigits_eq_some, Marks]

theorem Marks.ticks {digits line : List Char} (marks : Marks digits line) : Ticks line digits :=
  ⟨[], line, rfl, marks, fun _ _ _ _ _ => Nat.zero_le _⟩

theorem ticks_cons {c : Char} {rest digits : List Char} (unmarked : ∀ other, ¬ Marks other (c :: rest)) :
    Ticks (c :: rest) digits ↔ Ticks rest digits := by
  constructor
  · rintro ⟨before, text, shape, marks, first⟩
    cases before with
    | nil => exact absurd (shape ▸ marks) (unmarked digits)
    | cons _ before =>
      cases shape
      refine ⟨before, text, rfl, marks, fun earlier others other shape marked => ?_⟩
      exact Nat.le_of_succ_le_succ (first (c :: earlier) others other (congrArg (c :: ·) shape) marked)
  · rintro ⟨before, text, rfl, marks, first⟩
    refine ⟨c :: before, text, rfl, marks, fun earlier others other shape marked => ?_⟩
    cases earlier with
    | nil => exact absurd (shape ▸ marked) (unmarked other)
    | cons _ earlier => exact Nat.succ_le_succ (first earlier others other (List.cons.inj shape).2 marked)

theorem progressDigits_eq_some {line digits : List Char} : progressDigits line = some digits ↔ Ticks line digits := by
  induction line with
  | nil =>
    constructor
    · intro found
      cases found
    · rintro ⟨before, text, shape, ⟨rest, whole, space, after, behind, _⟩, _⟩
      simp [whole, behind] at shape
  | cons c rest ih =>
    rw [progressDigits]
    split
    next found here =>
      have marks := marks_iff.mp here
      refine ⟨fun same => Option.some.inj same ▸ marks.ticks, ?_⟩
      rintro ⟨before, text, shape, marked, first⟩
      have none_before : before = [] := List.eq_nil_of_length_eq_zero (Nat.le_zero.mp (first [] _ _ rfl marks))
      subst none_before
      rw [← here, marks_iff]
      exact shape ▸ marked
    next missing =>
      have unmarked : ∀ other, ¬ Marks other (c :: rest) := by
        intro other marks
        rw [marks_iff.mpr marks] at missing
        cases missing
      rw [ih, ticks_cons unmarked]

theorem percentage_toNat (digits : List Char) : (percentage digits).toNat = min 100 ((number? digits).getD 100) := by
  have same (plain : digits.all isAsciiDigit = true) :
      digits.foldl (fun value c => value * 10 + (c.toNat - '0'.toNat)) 0 = Ascii.number 10 digits := by
    refine List.foldl_ext _ _ 0 fun value c member => ?_
    have digit : c.isDigit = true := List.all_eq_true.mp plain c member
    simp only [Ascii.digitValue, digit, if_true]
  unfold percentage number?
  cases plain : digits.all isAsciiDigit with
  | false => rfl
  | true =>
    have small : min (Ascii.number 10 digits) 100 < UInt8.size := by
      have : UInt8.size = 256 := rfl
      omega
    simp only [if_true, same plain, UInt8.toNat_ofNat_of_lt' small, Bool.true_and, decide_eq_true_eq]
    split <;> simp only [Option.getD_some, Option.getD_none] <;> omega

theorem percentage_le (digits : List Char) : percentage digits ≤ 100 := by
  have bound := percentage_toNat digits
  rw [UInt8.le_iff_toNat_le]
  change (percentage digits).toNat ≤ 100
  omega

theorem errorLine_tick {line : String} {digits : List Char} (ticks : Ticks line.toList digits) (transcript : Transcript) :
    transcript.errorLine line = ({ transcript with building := true },
      if transcript.building then [.progress (percentage digits) false]
      else [.progress 0 false, .progress (percentage digits) false]) := by
  simp only [errorLine, progressDigits_eq_some.mpr ticks]

theorem errorLine_silent {line : String} (silent : ∀ digits, ¬ Ticks line.toList digits) (transcript : Transcript) :
    transcript.errorLine line = (transcript, [.errorLine line]) := by
  cases found : progressDigits line.toList with
  | none => simp only [errorLine, found]
  | some digits => exact absurd (progressDigits_eq_some.mp found) (silent digits)

theorem errorLine_progress {line : String} {digits : List Char} (ticks : Ticks line.toList digits)
    {transcript : Transcript} {report : Report} (member : report ∈ (transcript.errorLine line).2) :
    ∃ percent ≤ 100, report = .progress percent false := by
  simp only [errorLine_tick ticks] at member
  split at member
  next =>
    cases List.mem_singleton.mp member
    exact ⟨percentage digits, percentage_le digits, rfl⟩
  next =>
    rcases List.mem_pair.mp member with rfl | rfl
    · exact ⟨0, by decide, rfl⟩
    · exact ⟨percentage digits, percentage_le digits, rfl⟩

end BuildWatch.Tool.Transcript
