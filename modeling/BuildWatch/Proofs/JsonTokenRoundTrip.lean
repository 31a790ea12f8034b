import BuildWatch.Json.Printer
import BuildWatch.Proofs.JsonValues

/-! Texts and whole numbers are read back from their compact form, whatever characters a text has. Behind a
number, nothing may go on that could belong to it. -/

namespace BuildWatch.Json

/-! ### Texts -/

/-- How a character is written: by a letter of its own, by its number, or as it is. -/
theorem escaped_cases (c : Char) :
    (∃ letter, letter ≠ 'u' ∧ 0x20 ≤ letter.toNat ∧ shortEscape? letter = some c ∧ escaped c = ['\\', letter]) ∨
    (c.toNat < 0x20 ∧ escaped c = ['\\', 'u', '0', '0', hexDigit (c.toNat / 16), hexDigit (c.toNat % 16)]) ∨
    (c ≠ '"' ∧ c ≠ '\\' ∧ ¬ c.toNat < 0x20 ∧ escaped c = [c]) := by
  have short : ∀ special ∈ ['"', '\\', '\x08', '\x0c', '\n', '\r', '\t'], ∃ letter,
      letter ≠ 'u' ∧ 0x20 ≤ letter.toNat ∧ shortEscape? letter = some special ∧ escaped special = ['\\', letter] := by
    simp only [List.forall_mem_cons, List.not_mem_nil, false_implies, implies_true, and_true]
    exact ⟨⟨'"', by decide⟩, ⟨'\\', by decide⟩, ⟨'b', by decide⟩, ⟨'f', by decide⟩, ⟨'n', by decide⟩, ⟨'r', by decide⟩,
      ⟨'t', by decide⟩⟩
  by_cases special : c ∈ ['"', '\\', '\x08', '\x0c', '\n', '\r', '\t']
  · exact .inl (short c special)
  simp only [List.mem_cons, List.not_mem_nil, or_false, not_or] at special
  obtain ⟨quote, escape, backspace, page, feed, back, tab⟩ := special
  simp only [escaped, if_neg quote, if_neg escape, if_neg backspace, if_neg page, if_neg feed, if_neg back, if_neg tab]
  by_cases control : c.toNat < 0x20
  · exact .inr (.inl ⟨control, if_pos control⟩)
  · exact .inr (.inr ⟨quote, escape, control, if_neg control⟩)

theorem escaped_ne_nil (c : Char) : escaped c ≠ [] := by
  obtain ⟨_, _, _, _, shape⟩ | ⟨_, shape⟩ | ⟨_, _, _, shape⟩ := escaped_cases c
  all_goals
    rw [shape]
    exact List.cons_ne_nil _ _

theorem hexValue?_hexDigit : ∀ n < 16, hexValue? (hexDigit n) = some n := by decide

theorem length_le_byteCount (text : List Char) : text.length ≤ byteCount text := by
  have counted : ∀ count, count + text.length ≤ text.foldl (fun count c => count + c.utf8Size) count := by
    induction text with
    | nil => exact fun count => Nat.le_refl count
    | cons c text ih =>
      intro count
      have further := ih (count + c.utf8Size)
      have positive := c.utf8Size_pos
      simp only [List.length_cons, List.foldl_cons]
      omega
  have all := counted 0
  rwa [Nat.zero_add] at all

theorem readHex_control {n : Nat} (control : n < 256) (rest : List Char) :
    readHex ('0' :: '0' :: hexDigit (n / 16) :: hexDigit (n % 16) :: rest) = .ok (n, rest) := by
  have enough : ¬ byteCount ('0' :: '0' :: hexDigit (n / 16) :: hexDigit (n % 16) :: rest) < 4 := by
    have longer := length_le_byteCount ('0' :: '0' :: hexDigit (n / 16) :: hexDigit (n % 16) :: rest)
    simp only [List.length_cons] at longer
    omega
  have zero : hexValue? '0' = some 0 := rfl
  simp only [readHex, if_neg enough, zero, hexValue?_hexDigit (n / 16) (by omega),
    hexValue?_hexDigit (n % 16) (by omega)]
  congr 2
  omega

theorem readUnicode_control {c : Char} (control : c.toNat < 0x20) (rest : List Char) :
    readUnicode ('0' :: '0' :: hexDigit (c.toNat / 16) :: hexDigit (c.toNat % 16) :: rest) = .ok (c, rest) := by
  have high : ¬ (0xdc00 ≤ c.toNat ∧ c.toNat ≤ 0xdfff) := by omega
  have single : c.toNat < 0xd800 ∨ 0xdbff < c.toNat := .inl (by omega)
  simp only [readUnicode, readHex_control (Nat.lt_trans control (by decide)), bind, Except.bind, Bool.and_eq_true,
    Bool.or_eq_true, decide_eq_true_eq, if_neg high, if_pos single, Char.ofNat_toNat]
  rfl

/-- A written character is read as what it stands for. -/
theorem readChar_escaped (c : Char) (rest : List Char) : readChar (escaped c ++ rest) = .ok (some c, rest) := by
  obtain ⟨letter, number, _, short, shape⟩ | ⟨control, shape⟩ | ⟨quote, escape, visible, shape⟩ := escaped_cases c
  · rw [shape]
    exact readChar_escape number short rest
  · rw [shape]
    simp only [List.cons_append, List.nil_append, readChar, readUnicode_control control]
    rfl
  · rw [shape, List.singleton_append, readChar_plain quote escape, if_neg visible]

theorem readChars_escaped (value : List Char) {fuel : Nat} (before rest : List Char)
    (enough : (value.flatMap escaped).length < fuel) :
    readChars fuel before (value.flatMap escaped ++ '"' :: rest) =
      .ok (String.ofList (before.reverse ++ value), rest) := by
  induction value generalizing fuel before with
  | nil =>
    obtain ⟨left, rfl⟩ := Nat.exists_eq_succ_of_ne_zero (Nat.ne_of_gt enough)
    simp [readChars, readChar]
  | cons c value ih =>
    -- a character takes one unit of fuel and at least one character of the text
    have longer := List.length_pos_iff.mpr (escaped_ne_nil c)
    simp only [List.flatMap_cons, List.length_append] at enough
    obtain ⟨left, rfl⟩ := Nat.exists_eq_succ_of_ne_zero (n := fuel) (by omega)
    simp only [readChars, List.flatMap_cons, List.append_assoc, readChar_escaped]
    rw [ih (c :: before) (by omega), List.reverse_cons, List.append_assoc, List.singleton_append]

/-- A text is read back behind its opening quote. -/
theorem readText_escaped (value : String) (rest : List Char) :
    readText (value.toList.flatMap escaped ++ '"' :: rest) = .ok (value, rest) := by
  have enough : (value.toList.flatMap escaped).length < (value.toList.flatMap escaped ++ '"' :: rest).length + 1 := by
    rw [List.length_append]
    omega
  rw [readText, readChars_escaped value.toList [] rest enough, List.reverse_nil, List.nil_append, String.ofList_toList]

theorem textChars_append (value : String) (rest : List Char) :
    textChars value ++ rest = '"' :: (value.toList.flatMap escaped ++ '"' :: rest) := by
  simp [textChars]

/-! ### Numbers -/

/-- Compact text goes on behind a value with a comma or a closing bracket, or not at all. -/
def Ends : List Char → Prop
  | [] => True
  | c :: _ => c = ',' ∨ c = ']' ∨ c = '\x7d'

theorem Ends.startsWithDigit {rest : List Char} (ends : Ends rest) : startsWithDigit rest = false := by
  cases rest with
  | nil => rfl
  | cons c later =>
    rcases ends with rfl | rfl | rfl
    all_goals rfl

theorem Ends.readTail {rest : List Char} (ends : Ends rest) (negative : Bool) (significand : Nat) (exponent : Int)
    (done : Reader Numeral) : readTail negative significand exponent done rest = done rest := by
  cases rest with
  | nil => rfl
  | cons c later =>
    rcases ends with rfl | rfl | rfl
    all_goals rfl

theorem Ends.digits {rest : List Char} (ends : Ends rest) :
    rest.takeWhile isDigit = [] ∧ rest.dropWhile isDigit = rest := by
  cases rest with
  | nil => exact ⟨rfl, rfl⟩
  | cons c later =>
    rcases ends with rfl | rfl | rfl
    all_goals exact ⟨rfl, rfl⟩

theorem le_ofDigitChars (digits : List Char) (value : Nat) : value ≤ Nat.ofDigitChars 10 digits value := by
  induction digits generalizing value with
  | nil => exact Nat.le_refl value
  | cons c digits ih =>
    rw [Nat.ofDigitChars_cons]
    exact Nat.le_trans (by omega) (ih (10 * value + (c.toNat - '0'.toNat)))

/-- All digits are taken as long as what they count stays below the bound. -/
theorem takeDigits_all {bound : Nat} {digits : List Char} (decimal : ∀ c ∈ digits, isDigit c = true) {rest : List Char}
    (ends : Ends rest) (value count : Nat) (below : Nat.ofDigitChars 10 digits value < bound) :
    takeDigits bound value count (digits ++ rest) =
      (Nat.ofDigitChars 10 digits value, count + digits.length, rest) := by
  induction digits generalizing value count with
  | nil =>
    have stop := ends.startsWithDigit
    cases rest with
    | nil => rfl
    | cons c later =>
      have letter : isDigit c = false := stop
      simp [takeDigits, letter]
  | cons c digits ih =>
    obtain ⟨digit, others⟩ := List.forall_mem_cons.mp decimal
    rw [Nat.ofDigitChars_cons, Nat.mul_comm] at below ⊢
    have small := Nat.lt_of_le_of_lt (le_ofDigitChars _ _) below
    have taken : (isDigit c && value * 10 + digitValue c < bound) = true := by
      simp only [digit, digitValue, small, decide_true, Bool.and_self]
    rw [List.cons_append, takeDigits, if_pos taken, digitValue, ih others _ _ below, List.length_cons]
    congr 2
    omega

theorem toDigits_isDigit (n : Nat) : ∀ c ∈ Nat.toDigits 10 n, isDigit c = true :=
  fun _ member => Nat.isDigit_of_mem_toDigits (by decide) (by decide) member

/-- A positive number starts with a digit other than zero. -/
theorem toDigits_leading (n : Nat) (positive : 0 < n) : ∃ c digits, Nat.toDigits 10 n = c :: digits ∧ c ≠ '0' := by
  induction n using Nat.strongRecOn with
  | ind n ih =>
    by_cases small : n < 10
    · exact ⟨n.digitChar, [], Nat.toDigits_of_lt_base small, fun zero => by
        have := Nat.digitChar_eq_zero.mp zero
        omega⟩
    · obtain ⟨c, digits, shape, nonzero⟩ := ih (n / 10) (by omega) (by omega)
      refine ⟨c, digits ++ [(n % 10).digitChar], ?_, nonzero⟩
      rw [Nat.toDigits_of_base_le (by decide) (by omega), shape, List.cons_append]

theorem readNumber_toDigits (negative : Bool) {n : Nat} (small : n < 0x10000000000000000) {rest : List Char}
    (ends : Ends rest) :
    readNumber negative (Nat.toDigits 10 n ++ rest) = .ok (whole negative n, rest) := by
  by_cases zero : n = 0
  · subst zero
    rw [Nat.toDigits_zero, List.singleton_append, readNumber_zero, ends.startsWithDigit, ends.readTail]
    rfl
  · obtain ⟨c, digits, shape, nonzero⟩ := toDigits_leading n (Nat.pos_of_ne_zero zero)
    have decimal := toDigits_isDigit n
    have value := Nat.ofDigitChars_ten_toDigits (n := n)
    have below : Nat.ofDigitChars 10 (Nat.toDigits 10 n) 0 < Nat.pow 2 64 := by
      rw [value]
      exact small
    have taken := takeDigits_all decimal ends 0 0 below
    rw [value, shape, List.cons_append] at taken
    have digit : isDigit c = true := decimal c (shape ▸ List.mem_cons_self)
    obtain ⟨none, all⟩ := ends.digits
    rw [shape, List.cons_append, readNumber_digits negative nonzero, digit]
    simp only [Bool.not_true, Bool.false_eq_true, if_false, taken, none, all, ends.readTail, List.isEmpty_nil, if_true]

theorem whole_positive (n : Nat) : whole false n = .whole n := rfl

theorem whole_negative {n : Nat} (positive : 0 < n) (small : n ≤ 0x8000000000000000) :
    whole true n = .whole (-n) := by
  have nonzero : (n == 0) = false := beq_false_of_ne (Nat.ne_of_gt positive)
  have inside : ¬ Nat.pow 2 63 < n := Nat.not_lt_of_le small
  simp only [whole, nonzero, decide_eq_false inside, Bool.or_self, Bool.not_true, Bool.false_eq_true, if_false]

theorem numeralChars_whole (value : Int) :
    numeralChars (.whole value) =
      if 0 ≤ value then Nat.toDigits 10 value.toNat else '-' :: Nat.toDigits 10 (-value).toNat := by
  rw [numeralChars, Int.toString_eq_repr, Int.repr_eq_if]
  split
  next => exact Nat.toList_repr
  next =>
    rw [String.toList_append, Nat.toList_repr]
    rfl

/-- A whole number fits in 64 bits, with a sign or without. -/
def FitsWord (value : Int) : Prop := -0x8000000000000000 ≤ value ∧ value < 0x10000000000000000

theorem readPlain_whole {value : Int} (word : FitsWord value) {rest : List Char} (ends : Ends rest) :
    readPlain (numeralChars (.whole value) ++ rest) = .ok (number (.whole value), rest) := by
  obtain ⟨least, greatest⟩ := word
  rw [numeralChars_whole]
  split
  next positive =>
    have read := readNumber_toDigits false (n := value.toNat) (by omega) ends
    have decimal := toDigits_isDigit value.toNat
    obtain ⟨c, digits, shape⟩ := List.exists_cons_of_ne_nil (Nat.toDigits_ne_nil (n := value.toNat) (b := 10))
    rw [shape] at read decimal ⊢
    rw [List.cons_append] at read ⊢
    rw [readPlain_digit (decimal c List.mem_cons_self), read, whole_positive, Int.toNat_of_nonneg positive]
    rfl
  next negative =>
    have read := readNumber_toDigits true (n := (-value).toNat) (by omega) ends
    have same : -((-value).toNat : Int) = value := by omega
    rw [List.cons_append, readPlain, read, whole_negative (by omega) (by omega), same]
    rfl

end BuildWatch.Json
