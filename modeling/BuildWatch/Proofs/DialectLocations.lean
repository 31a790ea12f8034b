import BuildWatch.Diagnostic.Dialect
import Mathlib.Data.List.Basic
import Mathlib.Data.List.TakeWhile

/-! What the dialects read off a problem. No loader speaks where no line begins with a bracket, and the plain dialect takes
the first word for the file and two numbers behind it for the position, each as far as it goes. -/

namespace BuildWatch.Dialect
open BuildWatch.Text

/-! ### Lines -/

theorem pieces_cutLine (text : List Char) : pieces text = (cutLine text).1 :: ((cutLine text).2.map pieces).getD [] := by
  induction text with
  | nil => rfl
  | cons c rest ih =>
    rw [pieces, ih]
    by_cases feed : c = '\n'
    · simp only [cutLine, feed, if_true, ih, Option.map_some, Option.getD_some]
    · simp only [cutLine, feed, if_false]

theorem cutLine_line {line : List Char} (whole : '\n' ∉ line) (rest : List Char) :
    cutLine (line ++ '\n' :: rest) = (line, some rest) := by
  induction line with
  | nil => rfl
  | cons c line ih =>
    have first : c ≠ '\n' := fun same => whole (same ▸ List.mem_cons_self)
    simp only [List.cons_append, cutLine, if_neg first, ih fun member => whole (List.mem_cons_of_mem c member)]

/-! ### Loaders -/

theorem loaderLine_eq_none {text : List Char} (unbracketed : (cutLine text).1.head? ≠ some '[') : loaderLine text = none := by
  unfold loaderLine
  split
  next => exact absurd rfl unbracketed
  next => rfl

theorem loader_eq_none {text : List Char} (unbracketed : ∀ line ∈ pieces text, line.head? ≠ some '[') :
    loader text = none := by
  fun_induction loader text with
  | case1 text location found =>
    rw [pieces_cutLine] at unbracketed
    rw [loaderLine_eq_none (unbracketed _ List.mem_cons_self)] at found
    cases found
  | case2 => rfl
  | case3 text _ rest left ih =>
    apply ih
    intro line member
    apply unbracketed
    rw [pieces_cutLine, left]
    exact List.mem_cons_of_mem _ member

/-! ### Digits -/

theorem isDigit_of_ascii {c : Char} (ascii : isAsciiDigit c = true) : isDigit c = true := by
  simp only [isAsciiDigit, Bool.and_eq_true, decide_eq_true_eq, Char.le_def, UInt32.le_iff_toNat_le] at ascii
  change 0x30 ≤ c.toNat ∧ c.toNat ≤ 0x39 at ascii
  refine List.any_eq_true.mpr ⟨0x30, by decide, ?_⟩
  simp only [Bool.and_eq_true, decide_eq_true_eq]
  omega

/-- A text in which a run of digits cannot go on. -/
def Undigited (text : List Char) : Prop := ∀ c, text.head? = some c → isDigit c = false

theorem digitsBefore_digits {digits : List Char} (counted : digits ≠ []) (all : ∀ c ∈ digits, isDigit c = true)
    {stop : Char} (stops : isDigit stop = false) (rest : List Char) :
    digitsBefore stop (digits ++ stop :: rest) = some (digits, rest) := by
  obtain ⟨digit, later, rfl⟩ := List.exists_cons_of_ne_nil counted
  have undigited : Undigited (stop :: rest) := by
    rintro _ ⟨⟩
    exact stops
  obtain ⟨taken, dropped⟩ := takeWhile_stops all undigited
  simp only [digitsBefore, taken, dropped, if_true]

/-- What plain digits count, up to the largest position. -/
theorem number_toNat {digits : List Char} (ascii : ∀ c ∈ digits, isAsciiDigit c = true) :
    (number digits).toNat = min (Nat.ofDigitChars 10 digits 0) (UInt32.size - 1) := by
  have counted : digits.foldl (fun value c => value * 10 + (c.toNat - '0'.toNat)) 0 = Nat.ofDigitChars 10 digits 0 := by
    unfold Nat.ofDigitChars
    simp only [Nat.mul_comm]
  have last : lastPosition.toNat = UInt32.size - 1 := rfl
  simp only [number, counted, List.all_eq_true.mpr ascii, Bool.true_and, decide_eq_true_eq, last]
  split
  next fits => rw [UInt32.toNat_ofNat_of_lt' (Nat.lt_of_le_of_lt fits (by decide)), Nat.min_eq_left fits]
  next large => rw [last, Nat.min_eq_right (Nat.le_of_not_le large)]

theorem fromZero_toNat (position : UInt32) : (fromZero position).toNat = position.toNat - 1 := by
  unfold fromZero
  split
  next zero => rw [zero]; rfl
  next positive =>
    have one : (1 : UInt32) ≤ position := by
      rw [UInt32.le_iff_toNat_le]
      exact Nat.pos_of_ne_zero fun zero => positive (UInt32.toNat_inj.mp zero)
    exact UInt32.toNat_sub_of_le _ _ one

/-! ### The plain dialect -/

theorem plainPosition_digits {line column rest : List Char} {space : Char} (spaced : isSpace space = true)
    (lined : line ≠ []) (lines : ∀ c ∈ line, isDigit c = true) (columned : column ≠ [])
    (columns : ∀ c ∈ column, isDigit c = true) (stops : Undigited rest) :
    plainPosition (space :: (line ++ ':' :: (column ++ rest))) = some (line, column) := by
  obtain ⟨digit, later, rfl⟩ := List.exists_cons_of_ne_nil columned
  simp only [plainPosition, spaced, if_true, digitsBefore_digits lined lines (by decide : isDigit ':' = false),
    (takeWhile_stops columns stops).1]

/-- The first word is the file, and what stands behind one space is the position if it is one. -/
theorem plain_word {file rest : List Char} {space : Char} (word : file ≠ []) (solid : ∀ c ∈ file, isSpace c = false)
    (spaced : isSpace space = true) {line column : List Char}
    (position : plainPosition (space :: rest) = some (line, column)) :
    plain (file ++ space :: rest) =
      some ⟨file, line, column, (cutLine (file ++ space :: rest)).2.getD []⟩ := by
  have front : ∀ c ∈ file, (!isSpace c) = true := fun c member => by rw [solid c member]; rfl
  have taken : (file ++ space :: rest).takeWhile (fun c => !isSpace c) = file := by
    rw [List.takeWhile_append_of_pos front]
    simp [spaced]
  have dropped : (file ++ space :: rest).dropWhile (fun c => !isSpace c) = space :: rest := by
    rw [List.dropWhile_append_of_pos front]
    simp [spaced]
  obtain ⟨first, later, rfl⟩ := List.exists_cons_of_ne_nil word
  simp only [plain, taken, dropped, position, Option.getD_some]

end BuildWatch.Dialect
