import BuildWatch.Proofs.JsonTokenRoundTrip

/-! Every value without doubles is read back from its compact form, and that form has no control characters. -/

namespace BuildWatch.Json

/-- A value that its compact form gives back: it has no doubles, its whole numbers have 64 bits, and at most `depth`
containers are around one another. -/
inductive Fits : Nat → Json → Prop where
  | null {depth : Nat} : Fits depth null
  | boolean {depth : Nat} (value : Bool) : Fits depth (boolean value)
  | whole {depth : Nat} {value : Int} (word : FitsWord value) : Fits depth (number (.whole value))
  | string {depth : Nat} (value : String) : Fits depth (string value)
  | list {depth : Nat} {items : List Json} (inside : ∀ item ∈ items, Fits depth item) : Fits (depth + 1) (list items)
  | object {depth : Nat} {fields : List (String × Json)} (inside : ∀ field ∈ fields, Fits depth field.2) :
    Fits (depth + 1) (object fields)

/-! ### Compact containers -/

def fieldText (field : String × Json) : List Char := textChars field.1 ++ ':' :: field.2.chars

/-- What stands behind the first part of a container: each further part behind a comma. -/
def further {α : Type} (text : α → List Char) (parts : List α) : List Char := parts.flatMap fun part => ',' :: text part

theorem itemChars_cons (item : Json) (items : List Json) :
    itemChars (item :: items) = item.chars ++ further chars items := by
  induction items generalizing item with
  | nil => simp [itemChars, further]
  | cons next items ih => simp only [itemChars, ih next, further, List.flatMap_cons, List.cons_append]

theorem fieldChars_cons (field : String × Json) (fields : List (String × Json)) :
    fieldChars (field :: fields) = fieldText field ++ further fieldText fields := by
  induction fields generalizing field with
  | nil => simp [fieldChars, further, fieldText]
  | cons next fields ih =>
    simp only [fieldChars, ih next, further, fieldText, List.flatMap_cons, List.cons_append, List.append_assoc]

theorem ends_further {α : Type} (text : α → List Char) (parts : List α) {bracket : Char}
    (closing : bracket = ']' ∨ bracket = '\x7d') (rest : List Char) :
    Ends (further text parts ++ bracket :: rest) := by
  cases parts with
  | nil => exact .inr closing
  | cons part parts => exact .inl rfl

theorem length_further {α : Type} (text : α → List Char) (parts : List α) :
    parts.length ≤ (further text parts).length := by
  induction parts with
  | nil => exact Nat.zero_le _
  | cons part parts ih =>
    simp only [further, List.flatMap_cons, List.length_append, List.length_cons] at ih ⊢
    omega

/-! ### Where values begin -/

theorem whole_begin (value : Int) :
    ∃ c later, numeralChars (.whole value) = c :: later ∧ isSpace c = false ∧
      ∀ other, isDigit other = false → other ≠ '-' → c ≠ other := by
  rw [numeralChars_whole]
  split
  next =>
    obtain ⟨c, digits, shape⟩ := List.exists_cons_of_ne_nil (Nat.toDigits_ne_nil (n := value.toNat) (b := 10))
    have digit : isDigit c = true := toDigits_isDigit _ c (shape ▸ List.mem_cons_self)
    have differs : ∀ other, isDigit other = false → c ≠ other := fun other letter => ne_of_digit digit letter
    refine ⟨c, digits, shape, ?_, fun other letter _ => differs other letter⟩
    simp [isSpace, differs ' ' rfl, differs '\n' rfl, differs '\t' rfl, differs '\r' rfl]
  next => exact ⟨_, _, rfl, rfl, fun other _ sign => sign.symm⟩

/-- The first character of a value is no blank, and nothing that goes on or closes a container. -/
theorem chars_begin {depth : Nat} {value : Json} (fits : Fits depth value) :
    ∃ c later, value.chars = c :: later ∧ isSpace c = false ∧ c ≠ ']' ∧ c ≠ ',' := by
  cases fits with
  | null => exact ⟨_, _, rfl, by decide⟩
  | boolean value => cases value <;> exact ⟨_, _, rfl, by decide⟩
  | @whole _ value =>
    obtain ⟨c, later, shape, visible, differs⟩ := whole_begin value
    exact ⟨c, later, shape, visible, differs ']' rfl (by decide), differs ',' rfl (by decide)⟩
  | string value => exact ⟨_, _, rfl, by decide⟩
  | list => exact ⟨_, _, rfl, by decide⟩
  | object => exact ⟨_, _, rfl, by decide⟩

theorem skipSpace_visible {c : Char} (visible : isSpace c = false) (rest : List Char) :
    skipSpace (c :: rest) = c :: rest := List.dropWhile_cons_of_neg (by simp [visible])

section
variable {depth : Nat} {value : Json} (fits : Fits depth value) (rest : List Char)
include fits

theorem nextItem_first : nextItem true (value.chars ++ rest) = .ok (some (value.chars ++ rest)) := by
  obtain ⟨c, later, shape, visible, closing, comma⟩ := chars_begin fits
  rw [shape, List.cons_append, nextItem_item true (skipSpace_visible visible _) closing comma, if_pos rfl]

theorem nextItem_further : nextItem false (',' :: (value.chars ++ rest)) = .ok (some (value.chars ++ rest)) := by
  obtain ⟨c, later, shape, visible, closing, _⟩ := chars_begin fits
  rw [shape, List.cons_append, nextItem_comma (skipSpace_visible rfl _) (skipSpace_visible visible _) closing]

end

/-! ### Containers -/

/-- A reader takes a value from its compact form and leaves what stands behind it. -/
def Takes (reader : Reader Json) (value : Json) : Prop :=
  ∀ rest, Ends rest → reader (value.chars ++ rest) = .ok (value, rest)

section
variable {depth : Nat} {item : Reader Json} {items : List Json} (fits : ∀ value ∈ items, Fits depth value)
  (takes : ∀ value ∈ items, Takes item value)
include fits takes

theorem readItems_further {fuel : Nat} (enough : items.length < fuel) (before : List Json) (rest : List Char) :
    readItems item fuel false before (further chars items ++ ']' :: rest) =
      .ok (before.reverse ++ items, ']' :: rest) := by
  induction items generalizing fuel before with
  | nil =>
    obtain ⟨left, rfl⟩ := Nat.exists_eq_succ_of_ne_zero (Nat.ne_of_gt enough)
    have closed : nextItem false (']' :: rest) = .ok none := nextItem_closed (skipSpace_visible rfl _)
    simp only [further, List.flatMap_nil, List.nil_append, List.append_nil, readItems, closed]
  | cons value items ih =>
    obtain ⟨fit, others⟩ := List.forall_mem_cons.mp fits
    obtain ⟨taken, later⟩ := List.forall_mem_cons.mp takes
    obtain ⟨left, rfl⟩ := Nat.exists_eq_succ_of_ne_zero (Nat.ne_of_gt (Nat.zero_lt_of_lt enough))
    have read := taken _ (ends_further chars items (.inl rfl) rest)
    have next := nextItem_further fit (further chars items ++ ']' :: rest)
    simp only [further, List.flatMap_cons, List.cons_append, List.append_assoc] at read next ⊢
    simp only [readItems, next, read]
    have shorter := ih others later (Nat.lt_of_succ_lt_succ enough) (value :: before)
    simpa only [further, List.reverse_cons, List.append_assoc, List.singleton_append] using shorter

theorem listOf_chars (rest : List Char) : listOf item (itemChars items ++ ']' :: rest) = .ok (items, rest) := by
  have read : readItems item ((itemChars items ++ ']' :: rest).length + 1) true [] (itemChars items ++ ']' :: rest) =
      .ok (items, ']' :: rest) := by
    cases items with
    | nil =>
      have closed : nextItem true (']' :: rest) = .ok none := nextItem_closed (skipSpace_visible rfl _)
      simp only [itemChars, List.nil_append, readItems, closed, List.reverse_nil]
    | cons value items =>
      obtain ⟨fit, others⟩ := List.forall_mem_cons.mp fits
      obtain ⟨taken, later⟩ := List.forall_mem_cons.mp takes
      have first := taken _ (ends_further chars items (.inl rfl) rest)
      have next := nextItem_first fit (further chars items ++ ']' :: rest)
      have counted := length_further chars items
      rw [itemChars_cons, List.append_assoc]
      simp only [readItems, next, first]
      exact readItems_further others later (by simp; omega) [value] rest
  rw [listOf, closing, read]
  rfl

end

theorem fieldText_append (part : String × Json) (rest : List Char) :
    fieldText part ++ rest = '"' :: (part.1.toList.flatMap escaped ++ '"' :: ':' :: (part.2.chars ++ rest)) := by
  rw [fieldText, List.append_assoc, textChars_append, List.cons_append]

section
variable {σ : Type} {field : σ → String → Reader σ}

theorem readFields_step {fuel : Nat} {first : Bool} {state after : σ} {text behind rest : List Char} {key : String}
    (next : nextKey first text = .ok (some (key.toList.flatMap escaped ++ '"' :: behind)))
    (read : field state key behind = .ok (after, rest)) :
    readFields field (fuel + 1) first state text = readFields field fuel false after rest := by
  simp only [readFields, next, readText_escaped, read]

variable (step : σ → String × Json → σ) {parts : List (String × Json)}
  (takes : ∀ part ∈ parts, ∀ state rest, Ends rest →
    field state part.1 (':' :: (part.2.chars ++ rest)) = .ok (step state part, rest))
include takes

theorem readFields_further {fuel : Nat} (enough : parts.length < fuel) (state : σ) (rest : List Char) :
    readFields field fuel false state (further fieldText parts ++ '\x7d' :: rest) =
      .ok (parts.foldl step state, '\x7d' :: rest) := by
  induction parts generalizing fuel state with
  | nil =>
    obtain ⟨left, rfl⟩ := Nat.exists_eq_succ_of_ne_zero (Nat.ne_of_gt enough)
    have closed : nextKey false ('\x7d' :: rest) = .ok none := nextKey_closed (skipSpace_visible rfl _)
    simp only [further, List.flatMap_nil, List.nil_append, List.foldl_nil, readFields, closed]
  | cons part parts ih =>
    obtain ⟨taken, later⟩ := List.forall_mem_cons.mp takes
    obtain ⟨left, rfl⟩ := Nat.exists_eq_succ_of_ne_zero (Nat.ne_of_gt (Nat.zero_lt_of_lt enough))
    have read := taken state _ (ends_further fieldText parts (.inr rfl) rest)
    have shorter := ih later (Nat.lt_of_succ_lt_succ enough) (step state part)
    have text : further fieldText (part :: parts) ++ '\x7d' :: rest =
        ',' :: (fieldText part ++ (further fieldText parts ++ '\x7d' :: rest)) := by
      simp only [further, List.flatMap_cons, List.cons_append, List.append_assoc]
    rw [text, fieldText_append, readFields_step rfl read, shorter, List.foldl_cons]

/-- The fields of an object are read one after the other, however the first of them is taken. -/
theorem readFields_all {fuel : Nat} (enough : parts.length < fuel) {state after : σ} {part : String × Json}
    {rest : List Char}
    (first : ∀ behind, Ends behind → field state part.1 (':' :: (part.2.chars ++ behind)) = .ok (after, behind)) :
    readFields field (fuel + 1) true state (fieldChars (part :: parts) ++ '\x7d' :: rest) =
      .ok (parts.foldl step after, '\x7d' :: rest) := by
  have read := first _ (ends_further fieldText parts (.inr rfl) rest)
  rw [fieldChars_cons, List.append_assoc, fieldText_append, readFields_step rfl read,
    readFields_further step takes enough]

end

theorem length_fieldChars (parts : List (String × Json)) (rest : List Char) :
    parts.length ≤ (fieldChars parts ++ rest).length := by
  cases parts with
  | nil => exact Nat.zero_le _
  | cons part parts =>
    have counted := length_further fieldText parts
    simp only [fieldChars_cons, fieldText, List.length_append, List.length_cons]
    omega

theorem freeField_takes {value : Reader Json} {part : String × Json} (takes : Takes value part.2)
    (before : List (String × Json)) {rest : List Char} (ends : Ends rest) :
    freeField value before part.1 (':' :: (part.2.chars ++ rest)) = .ok (part :: before, rest) := by
  have colon : readColon (':' :: (part.2.chars ++ rest)) = .ok ((), part.2.chars ++ rest) := rfl
  simp only [freeField, colon, takes rest ends]

theorem objectOf_chars {value : Reader Json} {parts : List (String × Json)}
    (takes : ∀ part ∈ parts, Takes value part.2) (rest : List Char) :
    objectOf (freeField value) [] (fieldChars parts ++ '\x7d' :: rest) = .ok (parts.reverse, rest) := by
  have read : readFields (freeField value) ((fieldChars parts ++ '\x7d' :: rest).length + 1) true []
      (fieldChars parts ++ '\x7d' :: rest) = .ok (parts.reverse, '\x7d' :: rest) := by
    cases parts with
    | nil =>
      have closed : nextKey true ('\x7d' :: rest) = .ok none := nextKey_closed (skipSpace_visible rfl _)
      simp only [fieldChars, List.nil_append, readFields, closed, List.reverse_nil]
    | cons part parts =>
      obtain ⟨first, others⟩ := List.forall_mem_cons.mp takes
      have enough := length_fieldChars (part :: parts) ('\x7d' :: rest)
      rw [readFields_all (fun read part => part :: read)
        (fun part member state _ ends => freeField_takes (others part member) state ends) enough
        (fun _ ends => freeField_takes first [] ends)]
      simp
  rw [objectOf, closing, read]
  rfl

/-! ### Values -/

/-- A value is read back from its compact form. -/
theorem readValue_chars {depth : Nat} {value : Json} (fits : Fits depth value) : Takes (readValue depth) value := by
  -- the depth a value fits in goes down with the depth that is left to its reader
  induction fits with
  | null =>
    intro rest ends
    exact readValue_plain _ (skipSpace_visible rfl _) (by decide) (by decide)
  | boolean value =>
    intro rest ends
    cases value
    all_goals exact readValue_plain _ (skipSpace_visible rfl _) (by decide) (by decide)
  | @whole _ value word =>
    intro rest ends
    have read := readPlain_whole word ends
    obtain ⟨c, later, shape, visible, differs⟩ := whole_begin value
    rw [chars]
    rw [shape, List.cons_append] at read ⊢
    rw [readValue_plain _ (skipSpace_visible visible _) (differs '[' rfl (by decide))
      (differs '\x7b' rfl (by decide)), read]
  | string value =>
    intro rest ends
    rw [chars, textChars_append, readValue_plain _ (skipSpace_visible rfl _) (by decide) (by decide), readPlain,
      readText_escaped]
    rfl
  | list inside ih =>
    intro rest ends
    rw [chars, List.cons_append, List.append_assoc, List.singleton_append,
      readValue_list _ (skipSpace_visible rfl _), listOf_chars inside ih]
    rfl
  | object inside ih =>
    intro rest ends
    rw [chars, List.cons_append, List.append_assoc, List.singleton_append,
      readValue_object _ (skipSpace_visible rfl _), objectOf_chars ih]
    simp [Except.map]

/-! ### One line -/

/-- Text without control characters has no line end in it. -/
def Visible (text : List Char) : Prop := ∀ c ∈ text, 0x20 ≤ c.toNat

theorem Visible.of_all {text : List Char} (all : (text.all fun c => 0x20 ≤ c.toNat) = true) : Visible text :=
  fun c member => of_decide_eq_true (List.all_eq_true.mp all c member)

theorem Visible.append {front behind : List Char} (first : Visible front) (second : Visible behind) :
    Visible (front ++ behind) := fun c member => (List.mem_append.mp member).elim (first c) (second c)

theorem Visible.cons {c : Char} (first : 0x20 ≤ c.toNat) {rest : List Char} (second : Visible rest) :
    Visible (c :: rest) := List.forall_mem_cons.mpr ⟨first, second⟩

theorem Visible.further {α : Type} {text : α → List Char} {parts : List α}
    (visible : ∀ part ∈ parts, Visible (text part)) : Visible (further text parts) := by
  intro c member
  obtain ⟨part, inside, here⟩ := List.mem_flatMap.mp member
  exact Visible.cons (c := ',') (by decide) (visible part inside) c here

theorem escaped_visible (c : Char) : Visible (escaped c) := by
  have digits : ∀ n < 16, 0x20 ≤ (hexDigit n).toNat := by decide
  obtain ⟨letter, _, readable, _, shape⟩ | ⟨control, shape⟩ | ⟨_, _, plain, shape⟩ := escaped_cases c
  all_goals rw [shape]
  · exact .cons (by decide) (.cons readable (List.forall_mem_nil _))
  · exact .cons (by decide) (.cons (by decide) (.cons (by decide) (.cons (by decide)
      (.cons (digits _ (by omega)) (.cons (digits _ (by omega)) (List.forall_mem_nil _))))))
  · exact .cons (Nat.le_of_not_lt plain) (List.forall_mem_nil _)

theorem textChars_visible (value : String) : Visible (textChars value) := by
  refine .cons (by decide) (.append ?_ (.cons (by decide) (List.forall_mem_nil _)))
  intro c member
  obtain ⟨part, _, here⟩ := List.mem_flatMap.mp member
  exact escaped_visible part c here

theorem whole_visible (value : Int) : Visible (numeralChars (.whole value)) := by
  have digits : ∀ n, Visible (Nat.toDigits 10 n) := by
    intro n c member
    have digit := toDigits_isDigit n c member
    simp only [isDigit, Bool.and_eq_true, decide_eq_true_eq] at digit
    exact Nat.le_trans (by decide) digit.1
  rw [numeralChars_whole]
  split
  next => exact digits _
  next => exact .cons (by decide) (digits _)

/-- The compact form of a value has no control characters, whatever its texts have. -/
theorem chars_visible {depth : Nat} {value : Json} (fits : Fits depth value) : Visible value.chars := by
  induction fits with
  | null => exact .of_all rfl
  | boolean value =>
    cases value
    all_goals exact .of_all rfl
  | whole => exact whole_visible _
  | string value => exact textChars_visible value
  | @list _ items inside ih =>
    refine .cons (by decide) (.append ?_ (.cons (by decide) (List.forall_mem_nil _)))
    cases items with
    | nil => exact List.forall_mem_nil _
    | cons item items =>
      obtain ⟨first, others⟩ := List.forall_mem_cons.mp ih
      exact itemChars_cons item items ▸ .append first (.further others)
  | @object _ parts inside ih =>
    refine .cons (by decide) (.append ?_ (.cons (by decide) (List.forall_mem_nil _)))
    have fields : ∀ part ∈ parts, Visible (fieldText part) := fun part member =>
      .append (textChars_visible part.1) (.cons (by decide) (ih part member))
    cases parts with
    | nil => exact List.forall_mem_nil _
    | cons part parts =>
      obtain ⟨first, others⟩ := List.forall_mem_cons.mp fields
      exact fieldChars_cons part parts ▸ .append first (.further others)

end BuildWatch.Json
