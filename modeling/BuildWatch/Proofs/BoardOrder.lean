import BuildWatch.Board

/-! The order of the files on a board. Paths are ordered by their components, and two paths that differ
in their spelling only are one file. -/

namespace BuildWatch

namespace Component

theorem precedes_iff {a b : Component} :
    a.precedes b = true ↔ a.rank < b.rank ∨ ∃ x y, a = name x ∧ b = name y ∧ x < y := by
  cases a with
  | name x =>
    cases b with
    | name y => simp [precedes, rank]
    | _ => simp [precedes]
  | _ => simp [precedes]

theorem rank_eq {a b : Component} (same : a.rank = b.rank) : a = b ∨ ∃ x y, a = name x ∧ b = name y := by
  cases a with
  | name x =>
    cases b with
    | name y => exact Or.inr ⟨x, y, rfl, rfl⟩
    | _ => cases same
  | _ => cases b <;> first | exact Or.inl rfl | cases same

theorem precedes_irrefl (a : Component) : a.precedes a = false := by
  refine Bool.eq_false_iff.mpr fun itself => ?_
  rcases precedes_iff.mp itself with less | ⟨x, y, rfl, same, less⟩
  · exact Nat.lt_irrefl _ less
  · cases same
    exact String.lt_irrefl x less

theorem precedes_trans {a b c : Component} (first : a.precedes b = true) (second : b.precedes c = true) :
    a.precedes c = true := by
  refine precedes_iff.mpr ?_
  rcases precedes_iff.mp first with less | ⟨x, y, rfl, rfl, less⟩
  · rcases precedes_iff.mp second with more | ⟨y, z, rfl, rfl, more⟩
    · exact Or.inl (Nat.lt_trans less more)
    · exact Or.inl less
  · rcases precedes_iff.mp second with more | ⟨_, z, same, rfl, more⟩
    · exact Or.inl more
    · cases same
      exact Or.inr ⟨x, z, rfl, rfl, String.lt_trans less more⟩

theorem precedes_total {a b : Component} (different : a ≠ b) : a.precedes b = true ∨ b.precedes a = true := by
  rw [precedes_iff, precedes_iff]
  rcases Nat.lt_trichotomy a.rank b.rank with less | same | more
  · exact Or.inl (Or.inl less)
  · rcases rank_eq same with equal | ⟨x, y, rfl, rfl⟩
    · exact absurd equal different
    by_cases less : x < y
    · exact Or.inl (Or.inr ⟨x, y, rfl, rfl, less⟩)
    by_cases greater : y < x
    · exact Or.inr (Or.inr ⟨y, x, rfl, rfl, greater⟩)
    have equal : x = y := String.le_antisymm (String.not_lt.mp greater) (String.not_lt.mp less)
    exact absurd (congrArg name equal) different
  · exact Or.inr (Or.inl more)

end Component

namespace Path

theorem precedes_irrefl (steps : List Component) : precedes steps steps = false := by
  induction steps with
  | nil => rfl
  | cons step steps ih => simpa [precedes] using ih

theorem precedes_trans {a b c : List Component} (first : precedes a b = true) (second : precedes b c = true) :
    precedes a c = true := by
  induction a generalizing b c with
  | nil =>
    cases b with
    | nil => cases first
    | cons y b =>
      cases c with
      | nil => cases second
      | cons z c => rfl
  | cons x a ih =>
    cases b with
    | nil => cases first
    | cons y b =>
      cases c with
      | nil => cases second
      | cons z c =>
        simp only [precedes, beq_iff_eq] at first second ⊢
        by_cases left : x = y
        · subst y
          by_cases right : x = z
          · simp only [right, if_true] at first second ⊢
            exact ih first second
          · simpa only [right, if_false] using second
        · simp only [left, if_false] at first
          by_cases right : y = z
          · subst z
            simpa only [left, if_false] using first
          · simp only [right, if_false] at second
            have less := Component.precedes_trans first second
            have different : x ≠ z := by
              rintro rfl
              rw [Component.precedes_irrefl] at less
              cases less
            simpa only [different, if_false] using less

theorem precedes_total {a b : List Component} (different : a ≠ b) : precedes a b = true ∨ precedes b a = true := by
  induction a generalizing b with
  | nil =>
    cases b with
    | nil => exact absurd rfl different
    | cons y b => exact Or.inl rfl
  | cons x a ih =>
    cases b with
    | nil => exact Or.inr rfl
    | cons y b =>
      by_cases same : x = y
      · subst y
        simpa [precedes] using ih (fun equal => different (by rw [equal]))
      · simpa [precedes, same, Ne.symm same] using Component.precedes_total same

theorem equivalent_iff {a b : Path} : a.equivalent b = true ↔ a.components = b.components := beq_iff_eq

theorem equivalent_refl (a : Path) : a.equivalent a = true := equivalent_iff.mpr rfl

theorem equivalent_comm (a b : Path) : a.equivalent b = b.equivalent a := by
  rw [Bool.eq_iff_iff, equivalent_iff, equivalent_iff]
  exact eq_comm

theorem equivalent_congr {a b : Path} (same : a.equivalent b = true) (c : Path) : a.equivalent c = b.equivalent c := by
  unfold equivalent
  rw [equivalent_iff.mp same]

theorem before_irrefl (a : Path) : a.before a = false := precedes_irrefl _

theorem before_trans {a b c : Path} (first : a.before b = true) (second : b.before c = true) : a.before c = true :=
  precedes_trans first second

theorem before_congr {a b : Path} (same : a.equivalent b = true) (c : Path) :
    a.before c = b.before c ∧ c.before a = c.before b := by
  unfold before
  rw [equivalent_iff.mp same]
  exact ⟨rfl, rfl⟩

theorem not_equivalent_of_before {a b : Path} (less : a.before b = true) : a.equivalent b = false := by
  apply Bool.eq_false_iff.mpr
  intro same
  rw [(before_congr same b).1, before_irrefl] at less
  cases less

theorem before_total {a b : Path} (different : a.equivalent b = false) : a.before b = true ∨ b.before a = true :=
  precedes_total fun equal => by rw [equivalent_iff.mpr equal] at different; cases different

end Path

namespace Board

/-- Every file is before all files behind it, so no file is listed twice. -/
def Ordered (files : List FileDiagnostics) : Prop :=
  files.Pairwise fun earlier later => earlier.1.before later.1 = true

/-- Changes what is held for a file, or finds a place for the file when there is nothing yet. -/
def alter (file : Path) (change : Option (List Diagnostic) → List Diagnostic) :
    List FileDiagnostics → List FileDiagnostics
  | [] => [(file, change none)]
  | (other, held) :: rest =>
    if file.equivalent other then (other, change (some held)) :: rest
    else if file.before other then (file, change none) :: (other, held) :: rest
    else (other, held) :: alter file change rest

theorem append_eq_alter (item : Diagnostic) (files : List FileDiagnostics) :
    append item files = alter item.file (fun held => held.getD [] ++ [item]) files := by
  induction files with
  | nil => rfl
  | cons entry rest ih => simp [append, alter, ih]

variable (file : Path) (change : Option (List Diagnostic) → List Diagnostic)

/-- A file is altered where it is, or put behind all files before it and in front of all files after it. -/
theorem alter_cases {files : List FileDiagnostics} (ordered : Ordered files) :
    (∃ front other held back, files = front ++ (other, held) :: back ∧ file.equivalent other = true ∧
      alter file change files = front ++ (other, change (some held)) :: back) ∨
    (∃ front back, files = front ++ back ∧ (∀ entry ∈ front, entry.1.before file = true) ∧
      (∀ entry ∈ back, file.before entry.1 = true) ∧ alter file change files = front ++ (file, change none) :: back) := by
  induction files with
  | nil => exact Or.inr ⟨[], [], rfl, by simp, by simp, rfl⟩
  | cons entry rest ih =>
    obtain ⟨other, held⟩ := entry
    obtain ⟨first, later⟩ := List.pairwise_cons.mp ordered
    simp only [alter]
    by_cases same : file.equivalent other = true
    · exact Or.inl ⟨[], other, held, rest, rfl, same, by rw [if_pos same]; rfl⟩
    · rw [if_neg same]
      by_cases less : file.before other = true
      · refine Or.inr ⟨[], (other, held) :: rest, rfl, by simp, ?_, by rw [if_pos less]; rfl⟩
        intro entry member
        rcases List.mem_cons.mp member with rfl | member
        · exact less
        · exact Path.before_trans less (first entry member)
      · rw [if_neg less]
        have greater : other.before file = true :=
          (Path.before_total (Bool.eq_false_iff.mpr same)).resolve_left less
        rcases ih later with
          ⟨front, key, kept, back, shape, equal, altered⟩ | ⟨front, back, shape, before, behind, altered⟩
        · exact Or.inl ⟨(other, held) :: front, key, kept, back, by rw [shape]; rfl, equal, by rw [altered]; rfl⟩
        · refine Or.inr ⟨(other, held) :: front, back, by rw [shape]; rfl, ?_, behind, by rw [altered]; rfl⟩
          exact List.forall_mem_cons.mpr ⟨greater, before⟩

theorem Ordered.alter {files : List FileDiagnostics} (ordered : Ordered files) : Ordered (alter file change files) := by
  rcases alter_cases file change ordered with
    ⟨front, other, held, back, rfl, _, altered⟩ | ⟨front, back, rfl, before, behind, altered⟩
  · rw [altered]
    unfold Ordered at ordered ⊢
    rw [List.pairwise_append, List.pairwise_cons] at ordered ⊢
    obtain ⟨first, ⟨least, second⟩, across⟩ := ordered
    refine ⟨first, ⟨least, second⟩, ?_⟩
    intro earlier inside later member
    rcases List.mem_cons.mp member with rfl | member
    · exact across earlier inside (other, held) List.mem_cons_self
    · exact across earlier inside later (List.mem_cons_of_mem _ member)
  · rw [altered]
    unfold Ordered at ordered ⊢
    rw [List.pairwise_append] at ordered ⊢
    obtain ⟨first, second, across⟩ := ordered
    refine ⟨first, List.pairwise_cons.mpr ⟨behind, second⟩, ?_⟩
    intro earlier inside later member
    rcases List.mem_cons.mp member with rfl | member
    · exact before earlier inside
    · exact across earlier inside later member

/-- An altered list holds what it held for other files, and the change for the file itself. -/
theorem Ordered.mem_alter {files : List FileDiagnostics} (ordered : Ordered files) {entry : FileDiagnostics}
    (member : entry ∈ Board.alter file change files) :
    (entry ∈ files ∧ file.equivalent entry.1 = false) ∨
    (∃ held, (entry.1, held) ∈ files ∧ file.equivalent entry.1 = true ∧ entry.2 = change (some held)) ∨
    ((∀ other ∈ files, file.equivalent other.1 = false) ∧ entry = (file, change none)) := by
  rcases alter_cases file change ordered with
    ⟨front, other, held, back, rfl, same, altered⟩ | ⟨front, back, rfl, before, behind, altered⟩
  · unfold Ordered at ordered
    rw [List.pairwise_append, List.pairwise_cons] at ordered
    obtain ⟨_, ⟨least, _⟩, across⟩ := ordered
    rw [altered] at member
    rcases List.mem_append.mp member with early | late
    · refine Or.inl ⟨List.mem_append_left _ early, ?_⟩
      have less : entry.1.before other = true := across entry early (other, held) List.mem_cons_self
      rw [Path.equivalent_congr same, Path.equivalent_comm]
      exact Path.not_equivalent_of_before less
    · rcases List.mem_cons.mp late with rfl | late
      · exact Or.inr (Or.inl ⟨held, List.mem_append_right _ List.mem_cons_self, same, rfl⟩)
      · refine Or.inl ⟨List.mem_append_right _ (List.mem_cons_of_mem _ late), ?_⟩
        rw [Path.equivalent_congr same]
        exact Path.not_equivalent_of_before (least entry late)
  · have fresh : ∀ other ∈ front ++ back, file.equivalent other.1 = false := by
      intro other inside
      rcases List.mem_append.mp inside with early | late
      · rw [Path.equivalent_comm]
        exact Path.not_equivalent_of_before (before other early)
      · exact Path.not_equivalent_of_before (behind other late)
    rw [altered] at member
    rcases List.mem_append.mp member with early | late
    · exact Or.inl ⟨List.mem_append_left _ early, fresh entry (List.mem_append_left _ early)⟩
    · rcases List.mem_cons.mp late with rfl | late
      · exact Or.inr (Or.inr ⟨fresh, rfl⟩)
      · exact Or.inl ⟨List.mem_append_right _ late, fresh entry (List.mem_append_right _ late)⟩

end Board

end BuildWatch
