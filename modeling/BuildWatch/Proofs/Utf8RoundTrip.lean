import BuildWatch.Text.Utf8
import Mathlib.Data.List.Basic

/-! Text that is written as UTF-8 is read back as it was, and a byte below 128 in it is a character of its own. -/

namespace BuildWatch.Utf8

/-! ### Bytes -/

theorem toList_loop (bytes : ByteArray) (index : Nat) (read : List UInt8) :
    ByteArray.toList.loop bytes index read = read.reverse ++ bytes.data.toList.drop index := by
  fun_induction ByteArray.toList.loop bytes index read with
  | case1 index read inside ih =>
    have here : bytes.get! index = bytes.data.toList[index] := getElem!_pos bytes.data index inside
    rw [ih, here, List.reverse_cons, List.append_assoc, List.drop_eq_getElem_cons (l := bytes.data.toList) inside]
    rfl
  | case2 index read behind =>
    rw [List.drop_eq_nil_of_le (Nat.le_of_not_lt behind), List.append_nil]

theorem encode_eq (text : String) : encode text = text.toList.flatMap String.utf8EncodeChar := by
  have bytes : text.toUTF8 = (text.toList.flatMap String.utf8EncodeChar).toByteArray := String.utf8Encode_toList.symm
  rw [encode, bytes, ByteArray.toList, toList_loop]
  exact List.toList_data_toByteArray

theorem encode_append (front behind : String) : encode (front ++ behind) = encode front ++ encode behind := by
  simp only [encode_eq, String.toList_append, List.flatMap_append]

/-! ### Characters of one to four bytes -/

theorem between_iff (least b greatest : UInt8) :
    (least ≤ b && b ≤ greatest) = true ↔ least.toNat ≤ b.toNat ∧ b.toNat ≤ greatest.toNat := by
  simp only [Bool.and_eq_true, decide_eq_true_eq, UInt8.le_iff_toNat_le]

theorem beyond {least b greatest : UInt8} (above : greatest.toNat < b.toNat) : ¬ (least ≤ b && b ≤ greatest) = true :=
  fun held => Nat.not_le_of_lt above ((between_iff least b greatest).mp held).2

theorem not_ascii {b : UInt8} (above : 128 ≤ b.toNat) : ¬ b < 0x80 :=
  fun below => Nat.not_le_of_lt (UInt8.lt_iff_toNat_lt.mp below) above

/-- The narrower ranges keep out longer forms of shorter characters, surrogates, and what is beyond the last
character. -/
theorem within_secondRange (first : UInt8) {second : UInt8} (continues : isContinuation second = true)
    (long : first.toNat = 224 → 160 ≤ second.toNat) (surrogate : first.toNat = 237 → second.toNat ≤ 159)
    (longer : first.toNat = 240 → 144 ≤ second.toNat) (last : first.toNat = 244 → second.toNat ≤ 143) :
    ((secondRange first).1 ≤ second && second ≤ (secondRange first).2) = true := by
  obtain ⟨least, greatest⟩ := (between_iff 0x80 second 0xbf).mp continues
  rw [between_iff]
  unfold secondRange
  split
  next same => exact ⟨long (by rw [eq_of_beq same]; rfl), greatest⟩
  split
  next same => exact ⟨least, surrogate (by rw [eq_of_beq same]; rfl)⟩
  split
  next same => exact ⟨longer (by rw [eq_of_beq same]; rfl), greatest⟩
  split
  next same => exact ⟨least, last (by rw [eq_of_beq same]; rfl)⟩
  exact ⟨least, greatest⟩

theorem item_one {first : UInt8} (ascii : first.toNat < 128) (rest : List UInt8) :
    item first rest = (.char (Char.ofNat first.toNat), 0) := by
  have below : first < 0x80 := UInt8.lt_iff_toNat_lt.mpr ascii
  rw [item.eq_def, if_pos below]

theorem item_two {first second : UInt8} (least : 194 ≤ first.toNat) (greatest : first.toNat ≤ 223)
    (continues : isContinuation second = true) (rest : List UInt8) :
    item first (second :: rest) = (.char (Char.ofNat (first.toNat % 32 * 64 + second.toNat % 64)), 1) := by
  have above := not_ascii (b := first) (by omega)
  have inside := (between_iff 0xc2 first 0xdf).mpr ⟨least, greatest⟩
  rw [item.eq_def, if_neg above, if_pos inside]
  simp only [continues, if_true, low]

theorem item_three {first second third : UInt8} (least : 224 ≤ first.toNat) (greatest : first.toNat ≤ 239)
    (range : ((secondRange first).1 ≤ second && second ≤ (secondRange first).2) = true)
    (continues : isContinuation third = true) (rest : List UInt8) :
    item first (second :: third :: rest) =
      (.char (Char.ofNat ((first.toNat % 16 * 64 + second.toNat % 64) * 64 + third.toNat % 64)), 2) := by
  have above := not_ascii (b := first) (by omega)
  have behind : ¬ (0xc2 ≤ first && first ≤ 0xdf) = true := beyond (Nat.lt_of_lt_of_le (by decide) least)
  have inside := (between_iff 0xe0 first 0xef).mpr ⟨least, greatest⟩
  rw [item.eq_def, if_neg above, if_neg behind, if_pos inside]
  simp only [range, continues, if_true, Bool.not_true, Bool.false_eq_true, if_false, low]

theorem item_four {first second third fourth : UInt8} (least : 240 ≤ first.toNat) (greatest : first.toNat ≤ 244)
    (range : ((secondRange first).1 ≤ second && second ≤ (secondRange first).2) = true)
    (continues : isContinuation third = true) (ends : isContinuation fourth = true) (rest : List UInt8) :
    item first (second :: third :: fourth :: rest) =
      (.char (Char.ofNat
        (((first.toNat % 8 * 64 + second.toNat % 64) * 64 + third.toNat % 64) * 64 + fourth.toNat % 64)), 3) := by
  have above := not_ascii (b := first) (by omega)
  have behind : ¬ (0xc2 ≤ first && first ≤ 0xdf) = true := beyond (Nat.lt_of_lt_of_le (by decide) least)
  have further : ¬ (0xe0 ≤ first && first ≤ 0xef) = true := beyond (Nat.lt_of_lt_of_le (by decide) least)
  have inside := (between_iff 0xf0 first 0xf4).mpr ⟨least, greatest⟩
  rw [item.eq_def, if_neg above, if_neg behind, if_neg further, if_pos inside]
  simp only [range, continues, ends, if_true, Bool.not_true, Bool.false_eq_true, if_false, low]

theorem toNat_byte {n : Nat} (small : n < 256) : (UInt8.ofNat n).toNat = n := UInt8.toNat_ofNat_of_lt' small

theorem continuation (n : Nat) : isContinuation (UInt8.ofNat (n % 64 + 128)) = true := by
  refine (between_iff 0x80 _ 0xbf).mpr ?_
  rw [toNat_byte (by omega)]
  change 128 ≤ n % 64 + 128 ∧ n % 64 + 128 ≤ 191
  omega

/-- The bytes of a character are read as that character, whatever follows them. -/
theorem item_encoded (c : Char) (rest : List UInt8) :
    ∃ first more, String.utf8EncodeChar c = first :: more ∧ item first (more ++ rest) = (.char c, more.length) := by
  have same : ∀ n, n = c.val.toNat → Char.ofNat n = c := fun n same => same ▸ Char.ofNat_toNat c
  have valid : c.val.toNat < 0xd800 ∨ 0xdfff < c.val.toNat ∧ c.val.toNat < 0x110000 := c.valid
  rw [String.utf8EncodeChar.eq_1]
  generalize c.val.toNat = n at same valid
  split
  next one =>
    refine ⟨_, [], rfl, ?_⟩
    have value := toNat_byte (n := n) (by omega)
    rw [item_one (by omega), value, same n rfl]
    rfl
  split
  next two =>
    refine ⟨_, [_], rfl, ?_⟩
    have value := toNat_byte (n := n / 64 % 32 + 192) (by omega)
    have value₂ := toNat_byte (n := n % 64 + 128) (by omega)
    rw [List.singleton_append, item_two (by omega) (by omega) (continuation n), value, value₂, same _ (by omega)]
    rfl
  split
  next three =>
    refine ⟨_, [_, _], rfl, ?_⟩
    have value := toNat_byte (n := n / 4096 % 16 + 224) (by omega)
    have value₂ := toNat_byte (n := n / 64 % 64 + 128) (by omega)
    have value₃ := toNat_byte (n := n % 64 + 128) (by omega)
    -- a character is no surrogate, which is what keeps the second byte behind `0xed` low
    have range := within_secondRange (.ofNat (n / 4096 % 16 + 224)) (continuation (n / 64))
      (by omega) (by omega) (by omega) (by omega)
    rw [List.cons_append, List.singleton_append, item_three (by omega) (by omega) range (continuation n),
      value, value₂, value₃, same _ (by omega)]
    rfl
  next four =>
    refine ⟨_, [_, _, _], rfl, ?_⟩
    have value := toNat_byte (n := n / 262144 % 8 + 240) (by omega)
    have value₂ := toNat_byte (n := n / 4096 % 64 + 128) (by omega)
    have value₃ := toNat_byte (n := n / 64 % 64 + 128) (by omega)
    have value₄ := toNat_byte (n := n % 64 + 128) (by omega)
    have range := within_secondRange (.ofNat (n / 262144 % 8 + 240)) (continuation (n / 4096))
      (by omega) (by omega) (by omega) (by omega)
    rw [List.cons_append, List.cons_append, List.singleton_append,
      item_four (by omega) (by omega) range (continuation (n / 64)) (continuation n),
      value, value₂, value₃, value₄, same _ (by omega)]
    rfl

/-! ### Texts -/

theorem go_encoded (text : List Char) (index : Nat) (read : List Char) :
    decode.go (text.flatMap String.utf8EncodeChar) index read = .ok (String.ofList (read.reverse ++ text)) := by
  induction text generalizing index read with
  | nil =>
    rw [List.flatMap_nil, decode.go, List.append_nil]
  | cons c text ih =>
    obtain ⟨first, more, bytes, found⟩ := item_encoded c (text.flatMap String.utf8EncodeChar)
    rw [List.flatMap_cons, bytes, List.cons_append, decode.go, found]
    simp only [List.drop_left, ih, List.reverse_cons, List.append_assoc, List.singleton_append]

/-- Reading gives back what was written. -/
theorem decode_encode (text : String) : decode (encode text) = .ok text := by
  rw [encode_eq, decode, go_encoded]
  exact congrArg Except.ok String.ofList_toList

theorem high_of_long {c : Char} (long : 127 < c.val.toNat) {b : UInt8} (member : b ∈ String.utf8EncodeChar c) :
    128 ≤ b.toNat := by
  have high : ∀ n, 128 ≤ n → n < 256 → b = UInt8.ofNat n → 128 ≤ b.toNat := by
    rintro n least small rfl
    rw [toNat_byte small]
    exact least
  rw [String.utf8EncodeChar.eq_1, if_neg (Nat.not_le_of_lt long)] at member
  repeat' split at member
  all_goals simp only [List.mem_cons, List.not_mem_nil, or_false] at member
  · obtain same | same := member
    all_goals exact high _ (by omega) (by omega) same
  · obtain same | same | same := member
    all_goals exact high _ (by omega) (by omega) same
  · obtain same | same | same | same := member
    all_goals exact high _ (by omega) (by omega) same

/-- A byte below 128 stands for a whole character. -/
theorem char_of_ascii {text : String} {b : UInt8} (member : b ∈ encode text) (ascii : b.toNat < 128) :
    ∃ c ∈ text.toList, c.toNat = b.toNat := by
  rw [encode_eq] at member
  obtain ⟨c, inside, byte⟩ := List.mem_flatMap.mp member
  refine ⟨c, inside, ?_⟩
  have short : c.val.toNat ≤ 127 := by
    by_contra long
    exact Nat.not_le_of_lt ascii (high_of_long (Nat.lt_of_not_le long) byte)
  rw [String.utf8EncodeChar.eq_1, if_pos short] at byte
  rw [List.mem_singleton.mp byte]
  exact (toNat_byte (Nat.lt_of_le_of_lt short (by decide))).symm

end BuildWatch.Utf8
