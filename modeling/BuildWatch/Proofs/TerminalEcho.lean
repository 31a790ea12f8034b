import BuildWatch.Terminal
import Mathlib.Data.List.Induction

/-! The echo of a terminal. What its second replacement puts in front of a line feed is what the first one takes away there,
so that together they add a carriage return where a line feed has none, and change nothing else. Text may be echoed in parts,
unless it is cut in the midst of a line end. -/

namespace BuildWatch

/-- A text is read from the left, and whenever `old` is met, `new` takes its place and the reading goes on behind it. -/
inductive Text.Replaced (old new : List Char) : List Char → List Char → Prop
  | finished : Replaced old new [] []
  | met {rest result : List Char} (later : Replaced old new rest result) : Replaced old new (old ++ rest) (new ++ result)
  | passed {c : Char} {rest result : List Char} (absent : ¬ old <+: c :: rest) (later : Replaced old new rest result) :
    Replaced old new (c :: rest) (c :: result)

theorem Text.Replaced.unique {old new text result other : List Char} (visible : old ≠ []) (one : Replaced old new text result)
    (another : Replaced old new text other) : result = other := by
  -- `old ++ rest` is no constructor, so the other reading is taken apart behind an equation for its text.
  induction one generalizing other with
  | finished =>
    generalize shape : ([] : List Char) = text at another
    cases another with
    | finished => rfl
    | met => exact absurd (List.append_eq_nil_iff.mp shape.symm).1 visible
    | passed => cases shape
  | @met rest _ _ ih =>
    generalize shape : old ++ rest = text at another
    cases another with
    | finished => exact absurd (List.append_eq_nil_iff.mp shape).1 visible
    | met later => rw [ih (List.append_cancel_left shape ▸ later)]
    | passed absent => exact absurd ⟨rest, shape⟩ absent
  | @passed c rest _ absent _ ih =>
    generalize shape : c :: rest = text at another
    cases another with
    | finished => cases shape
    | met => exact absurd ⟨_, shape.symm⟩ absent
    | passed _ later =>
      obtain ⟨rfl, rfl⟩ := List.cons.inj shape
      rw [ih later]

namespace Terminal
open Text (Replaced)

/-- Between the two parts of a text stands a line end of which each has one character. -/
def CutsLineEnd (front behind : List Char) : Prop := front.getLast? = some '\r' ∧ behind.head? = some '\n'

theorem CutsLineEnd.later {front behind : List Char} (cut : CutsLineEnd front behind) (c : Char) :
    CutsLineEnd (c :: front) behind :=
  ⟨by rw [List.getLast?_cons, cut.1, Option.getD_some], cut.2⟩

theorem joinLineEnds_cons {c : Char} {rest : List Char} (whole : ¬ CutsLineEnd [c] rest) :
    joinLineEnds (c :: rest) = c :: joinLineEnds rest := by
  apply joinLineEnds.eq_2
  rintro behind rfl rfl
  exact whole ⟨rfl, rfl⟩

theorem joinLineEnds_replaced (text : List Char) : Replaced ['\r', '\n'] ['\n'] text (joinLineEnds text) := by
  fun_induction joinLineEnds text with
  | case1 rest ih => exact .met ih
  | case2 c rest other ih =>
    refine .passed ?_ ih
    rintro ⟨behind, shape⟩
    obtain ⟨rfl, rfl⟩ := List.cons.inj shape
    exact other behind rfl rfl
  | case3 => exact .finished

theorem addReturns_replaced (text : List Char) : Replaced ['\n'] ['\r', '\n'] text (addReturns text) := by
  fun_induction addReturns text with
  | case1 => exact .finished
  | case2 rest ih => exact .met ih
  | case3 c rest other ih =>
    refine .passed ?_ ih
    rintro ⟨behind, shape⟩
    exact other (List.cons.inj shape).1.symm

theorem joinLineEnds_append {front behind : List Char} (whole : ¬ CutsLineEnd front behind) :
    joinLineEnds (front ++ behind) = joinLineEnds front ++ joinLineEnds behind := by
  fun_induction joinLineEnds front with
  | case1 rest ih =>
    have later : ¬ CutsLineEnd rest behind := fun cut => whole ((cut.later '\n').later '\r')
    rw [List.cons_append, List.cons_append, joinLineEnds, ih later, List.cons_append]
  | case2 c rest other ih =>
    have first : ¬ CutsLineEnd [c] (rest ++ behind) := by
      rintro ⟨back, start⟩
      cases rest with
      | nil => exact whole ⟨back, start⟩
      | cons next rest => exact other rest (Option.some.inj back) (by rw [Option.some.inj start])
    rw [List.cons_append, joinLineEnds_cons first, ih fun cut => whole (cut.later c), List.cons_append]
  | case3 => rfl

theorem addReturns_append (front behind : List Char) :
    addReturns (front ++ behind) = addReturns front ++ addReturns behind := by
  fun_induction addReturns front with
  | case1 => rfl
  | case2 rest ih => simp [addReturns, ih]
  | case3 c rest other ih => simp [addReturns, other, ih]

theorem head?_addReturns (text : List Char) : (addReturns text).head? ≠ some '\n' := by
  fun_cases addReturns text with
  | case1 => simp
  | case2 => simp
  | case3 c rest other => simpa using other

/-- Joining takes away what was added, and no return that stood there before. -/
theorem joinLineEnds_addReturns (text : List Char) : joinLineEnds (addReturns text) = text := by
  fun_induction addReturns text with
  | case1 => rfl
  | case2 rest ih => rw [joinLineEnds, ih]
  | case3 c rest other ih => rw [joinLineEnds_cons fun cut => head?_addReturns rest cut.2, ih]

/-- The echo of a text as the list of its characters. -/
def echoed (text : List Char) : List Char := addReturns (joinLineEnds text)

theorem toList_echo (text : String) : (echo text).toList = echoed text.toList := String.toList_ofList

theorem echoed_append {front behind : List Char} (whole : ¬ CutsLineEnd front behind) :
    echoed (front ++ behind) = echoed front ++ echoed behind := by
  rw [echoed, joinLineEnds_append whole, addReturns_append, echoed, echoed]

theorem echoed_twice (text : List Char) : echoed (echoed text) = echoed text := by
  rw [echoed, echoed, joinLineEnds_addReturns]

theorem echoed_newline (rest : List Char) : echoed ('\n' :: rest) = '\r' :: '\n' :: echoed rest := by
  rw [← List.singleton_append, echoed_append fun cut => by cases cut.1]
  rfl

/-- A line feed behind a carriage return is echoed as it is. -/
theorem echoed_paired {front : List Char} (back : front.getLast? = some '\r') (rest : List Char) :
    echoed (front ++ '\n' :: rest) = echoed front ++ '\n' :: echoed rest := by
  obtain ⟨front, rfl⟩ := List.getLast?_eq_some_iff.mp back
  have whole (rest : List Char) : echoed (front ++ '\r' :: rest) = echoed front ++ echoed ('\r' :: rest) :=
    echoed_append fun cut => by cases cut.2
  calc echoed (front ++ ['\r'] ++ '\n' :: rest)
      = echoed front ++ echoed ('\r' :: '\n' :: rest) := by rw [List.append_assoc, List.singleton_append, whole]
    _ = echoed front ++ echoed ['\r'] ++ '\n' :: echoed rest := by rw [List.append_assoc]; rfl
    _ = echoed (front ++ ['\r']) ++ '\n' :: echoed rest := by rw [whole]

theorem echoed_plain {c : Char} (other : c ≠ '\n') : echoed [c] = [c] := by
  have whole : ¬ CutsLineEnd [c] [] := fun cut => by cases cut.2
  rw [echoed, joinLineEnds_cons whole]
  simp only [joinLineEnds, addReturns, if_neg other]

/-- What a character adds to the echo depends on nothing but the character before it. -/
theorem echoed_snoc (text : List Char) (c : Char) :
    echoed (text ++ [c]) = echoed text ++ if c = '\n' ∧ text.getLast? ≠ some '\r' then ['\r', c] else [c] := by
  by_cases newline : c = '\n'
  · subst newline
    by_cases back : text.getLast? = some '\r'
    · rw [if_neg fun bare => bare.2 back]
      exact echoed_paired back []
    · rw [if_pos ⟨rfl, back⟩, echoed_append fun cut => back cut.1]
      rfl
  · have whole : ¬ CutsLineEnd text [c] := fun cut => newline (Option.some.inj cut.2)
    rw [if_neg fun bare => newline bare.1, echoed_append whole, echoed_plain newline]

/-- A line end that is cut gets a second carriage return. -/
theorem echoed_append_iff (front behind : List Char) :
    echoed (front ++ behind) = echoed front ++ echoed behind ↔ ¬ CutsLineEnd front behind := by
  refine ⟨?_, echoed_append⟩
  rintro same ⟨back, start⟩
  obtain ⟨behind, rfl⟩ := List.head?_eq_some_iff.mp start
  rw [echoed_paired back, echoed_newline] at same
  cases List.append_cancel_left same

/-- At the given place stands a line feed, and no carriage return is directly before it. -/
def Bare (text : List Char) (place : Nat) : Prop := text[place]? = some '\n' ∧ (text.take place).getLast? ≠ some '\r'

instance (text : List Char) (place : Nat) : Decidable (Bare text place) := inferInstanceAs (Decidable (_ ∧ _))

/-- A text with a carriage return put before each of its bare line feeds. -/
def completed (text : List Char) : List Char :=
  (text.mapIdx fun place c => if Bare text place then ['\r', c] else [c]).flatten

theorem bare_append {front : List Char} {place : Nat} (within : place < front.length) (behind : List Char) :
    Bare (front ++ behind) place ↔ Bare front place := by
  rw [Bare, Bare, List.getElem?_append_left within, List.take_append_of_le_length (Nat.le_of_lt within)]

theorem bare_last (text : List Char) (c : Char) :
    Bare (text ++ [c]) text.length ↔ c = '\n' ∧ text.getLast? ≠ some '\r' := by
  simp [Bare]

theorem Bare.behind {front behind : List Char} {place : Nat} (bare : Bare (front ++ behind) (front.length + place)) :
    Bare behind place := by
  obtain ⟨newline, apart⟩ := bare
  rw [List.getElem?_append_right (Nat.le_add_right _ _), Nat.add_sub_cancel_left] at newline
  refine ⟨newline, fun back => apart ?_⟩
  rw [List.take_length_add_append, List.getLast?_append, back, Option.some_or]

theorem completed_snoc (text : List Char) (c : Char) :
    completed (text ++ [c]) = completed text ++ if c = '\n' ∧ text.getLast? ≠ some '\r' then ['\r', c] else [c] := by
  have before : (text.mapIdx fun place c' => if Bare (text ++ [c]) place then ['\r', c'] else [c']) =
      text.mapIdx fun place c' => if Bare text place then ['\r', c'] else [c'] := by
    apply List.mapIdx_eq_mapIdx_iff.mpr
    intro place within
    simp only [bare_append within]
  simp only [completed, List.mapIdx_concat, before, List.flatten_concat, bare_last]

theorem echoed_eq_completed (text : List Char) : echoed text = completed text := by
  -- From the end: whether a line feed is bare shows in what stands before it.
  induction text using List.reverseRecOn with
  | nil => rfl
  | append_singleton text c ih => rw [echoed_snoc, completed_snoc, ih]

/-- A text of parts without bare line feeds has none itself. -/
theorem not_bare_append {front behind : List Char} (first : ∀ place, ¬ Bare front place)
    (second : ∀ place, ¬ Bare behind place) (place : Nat) : ¬ Bare (front ++ behind) place := by
  intro bare
  by_cases within : place < front.length
  · exact first place ((bare_append within behind).mp bare)
  · obtain ⟨beyond, rfl⟩ := Nat.exists_eq_add_of_le (Nat.le_of_not_lt within)
    exact second beyond bare.behind

theorem not_bare_addReturns (text : List Char) (place : Nat) : ¬ Bare (addReturns text) place := by
  fun_induction addReturns text generalizing place with
  | case1 => exact fun bare => by cases bare.1
  | case2 rest ih =>
    have pair : ∀ place, ¬ Bare ['\r', '\n'] place
      | 0, bare => by cases bare.1
      | 1, bare => bare.2 rfl
      | _ + 2, bare => by cases bare.1
    exact not_bare_append pair ih place
  | case3 c rest other ih =>
    have single : ∀ place, ¬ Bare [c] place := fun _ bare =>
      other (List.mem_singleton.mp (List.mem_of_getElem? bare.1)).symm
    exact not_bare_append single ih place

theorem eq_echo_iff_replaced (text output : String) :
    output = echo text ↔ ∃ joined, Replaced ['\r', '\n'] ['\n'] text.toList joined ∧
      Replaced ['\n'] ['\r', '\n'] joined output.toList := by
  rw [← String.toList_inj, toList_echo]
  constructor
  · intro same
    exact ⟨_, joinLineEnds_replaced text.toList, same ▸ addReturns_replaced _⟩
  · rintro ⟨joined, joining, adding⟩
    obtain rfl := joining.unique (List.cons_ne_nil _ _) (joinLineEnds_replaced text.toList)
    exact adding.unique (List.cons_ne_nil _ _) (addReturns_replaced _)

/-- The echo of a text is what two readings of it leave, of which the first replaces each carriage return and line feed by the
line feed, and the second each line feed by the two. It is the text with a carriage return put before its bare line feeds, so
that none is bare and a second echo changes nothing. Two texts are echoed as one, unless a line end is cut between them. -/
theorem echo_completes_line_ends (text : String) :
    (∀ output, output = echo text ↔ ∃ joined, Replaced ['\r', '\n'] ['\n'] text.toList joined ∧
      Replaced ['\n'] ['\r', '\n'] joined output.toList) ∧
    (echo text).toList = completed text.toList ∧
    (∀ place, ¬ Bare (echo text).toList place) ∧
    echo (echo text) = echo text ∧
    ∀ behind, echo (text ++ behind) = echo text ++ echo behind ↔ ¬ CutsLineEnd text.toList behind.toList := by
  refine ⟨eq_echo_iff_replaced text, ?_, ?_, ?_, fun behind => ?_⟩
  · rw [toList_echo, echoed_eq_completed]
  · rw [toList_echo]
    exact not_bare_addReturns _
  · rw [← String.toList_inj, toList_echo, toList_echo, echoed_twice]
  · rw [← String.toList_inj, String.toList_append, toList_echo, toList_echo, toList_echo, String.toList_append]
    exact echoed_append_iff _ _

example : echo "a\r\r\nb\n" = "a\r\r\nb\r\n" ∧ echo "a\r" ++ echo "\nb" = "a\r\r\nb" := by decide +kernel

end Terminal

end BuildWatch
