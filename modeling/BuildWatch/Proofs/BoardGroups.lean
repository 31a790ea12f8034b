import BuildWatch.Proofs.BoardOrder

/-! Diagnostics sorted by file. A board that publishes some items holds every item once, with the others of
its file and in their order. -/

namespace BuildWatch.Board

/-- The files come in order, each spelled as its first item has it. -/
structure Publishes (items : List Diagnostic) (files : List FileDiagnostics) : Prop where
  ordered : Ordered files
  entries : ∀ entry ∈ files, entry.2 = items.filter (fun item => item.file.equivalent entry.1) ∧
    entry.2.head?.map (·.file) = some entry.1
  complete : (files.flatMap (·.2)).Perm items

namespace Publishes
variable {items : List Diagnostic} {files : List FileDiagnostics}

theorem empty : Publishes [] [] := ⟨.nil, by simp, .nil⟩

theorem nonempty (published : Publishes items files) {entry : FileDiagnostics} (member : entry ∈ files) :
    entry.2 ≠ [] := by
  intro empty
  have first := (published.entries entry member).2
  rw [empty] at first
  cases first

/-- Whoever looks for a file finds its items, under whatever spelling. -/
theorem lookup (published : Publishes items files) (file : Path) :
    ((⟨files⟩ : Board).items? file).getD [] = items.filter fun item => item.file.equivalent file := by
  unfold items?
  cases found : files.find? fun other => file.equivalent other.1 with
  | some entry =>
    have same : file.equivalent entry.1 = true := by simpa using List.find?_some found
    have held := (published.entries entry (List.mem_of_find?_eq_some found)).1
    simp only [Option.map_some, Option.getD_some, held]
    congr 1
    funext item
    rw [Path.equivalent_comm, Path.equivalent_comm item.file, Path.equivalent_congr same]
  | none =>
    symm
    apply List.filter_eq_nil_iff.mpr
    intro item member same
    obtain ⟨entry, inside, kept⟩ := List.mem_flatMap.mp (published.complete.mem_iff.mpr member)
    rw [(published.entries entry inside).1] at kept
    apply List.find?_eq_none.mp found entry inside
    rw [← Path.equivalent_congr same]
    exact (List.mem_filter.mp kept).2

theorem size (published : Publishes items files) : (⟨files⟩ : Board).size = items.length := published.complete.length_eq

/-- No item is published for a file that no entry stands for. -/
theorem fresh (published : Publishes items files) {file : Path}
    (unlisted : ∀ other ∈ files, file.equivalent other.1 = false) :
    items.filter (fun item => item.file.equivalent file) = [] := by
  apply List.filter_eq_nil_iff.mpr
  intro item member same
  obtain ⟨entry, listed, kept⟩ := List.mem_flatMap.mp (published.complete.mem_iff.mpr member)
  rw [(published.entries entry listed).1] at kept
  have absent := unlisted entry listed
  rw [← Path.equivalent_congr same, (List.mem_filter.mp kept).2] at absent
  cases absent

/-- One more item goes behind those of its file. -/
theorem append (published : Publishes items files) (item : Diagnostic) :
    Publishes (items ++ [item]) (Board.append item files) := by
  rw [append_eq_alter]
  refine ⟨published.ordered.alter _ _, ?_, ?_⟩
  · intro entry member
    rcases published.ordered.mem_alter _ _ member with ⟨listed, other⟩ | ⟨held, listed, same, added⟩ | ⟨unlisted, rfl⟩
    · obtain ⟨kept, first⟩ := published.entries entry listed
      exact ⟨by simpa [other] using kept, first⟩
    · obtain ⟨kept, first⟩ := published.entries _ listed
      have added : entry.2 = held ++ [item] := added
      refine ⟨by simp [added, same, ← kept], ?_⟩
      cases held with
      | nil => cases first
      | cons head tail => simpa [added] using first
    · exact ⟨by simp [published.fresh unlisted, Path.equivalent_refl], rfl⟩
  · have moved (front back : List Diagnostic) : (front ++ (item :: back)).Perm (front ++ back ++ [item]) := by
      rw [List.append_assoc]
      exact (List.perm_append_left_iff front).mpr (List.perm_append_singleton item back).symm
    rcases alter_cases item.file (fun held => held.getD [] ++ [item]) published.ordered with
      ⟨front, other, held, back, rfl, _, altered⟩ | ⟨front, back, rfl, _, _, altered⟩
    · rw [altered]
      have counted := moved (front.flatMap (·.2) ++ held) (back.flatMap (·.2))
      simp only [List.flatMap_append, List.flatMap_cons, Option.getD_some, List.append_assoc] at counted ⊢
      refine counted.trans ?_
      simpa [List.append_assoc] using published.complete.append_right [item]
    · rw [altered]
      have counted := moved (front.flatMap (·.2)) (back.flatMap (·.2))
      simp only [List.flatMap_append, List.flatMap_cons, Option.getD_none, List.nil_append] at counted ⊢
      refine counted.trans ?_
      simpa using published.complete.append_right [item]

end Publishes

theorem group_publishes (items : List Diagnostic) : Publishes items (group items) := by
  have step (done : List Diagnostic) (files : List FileDiagnostics) (published : Publishes done files) :
      Publishes (done ++ items) (items.foldl (fun files item => append item files) files) := by
    induction items generalizing done files with
    | nil => simpa using published
    | cons item rest ih => simpa using ih _ _ (published.append item)
  exact step [] [] .empty

/-- A file behind all others is put at the end. -/
private theorem insert_last {file : Path} {items : List Diagnostic} {files : List FileDiagnostics}
    (last : ∀ entry ∈ files, entry.1.before file = true) : insert file items files = files ++ [(file, items)] := by
  induction files with
  | nil => rfl
  | cons entry rest ih =>
    obtain ⟨greater, later⟩ := List.forall_mem_cons.mp last
    have different : file.equivalent entry.1 = false := by
      rw [Path.equivalent_comm]
      exact Path.not_equivalent_of_before greater
    have less : file.before entry.1 = false := by
      apply Bool.eq_false_iff.mpr
      intro less
      have around := Path.before_trans greater less
      rw [Path.before_irrefl] at around
      cases around
    simp [insert, different, less, ih later]

/-- Files that are set one by one, in order, are all there in the end. -/
theorem set_all {front files : List FileDiagnostics} (ordered : Ordered (front ++ files))
    (filled : ∀ entry ∈ files, entry.2 ≠ []) :
    files.foldl (fun board entry => board.set entry.1 entry.2) (⟨front⟩ : Board) = ⟨front ++ files⟩ := by
  induction files generalizing front with
  | nil => simp
  | cons entry rest ih =>
    obtain ⟨some, later⟩ := List.forall_mem_cons.mp filled
    have last : ∀ earlier ∈ front, earlier.1.before entry.1 = true := by
      unfold Ordered at ordered
      rw [List.pairwise_append] at ordered
      exact fun earlier member => ordered.2.2 earlier member entry List.mem_cons_self
    have set : (⟨front⟩ : Board).set entry.1 entry.2 = ⟨front ++ [entry]⟩ := by
      simp [Board.set, some, insert_last last]
    rw [List.foldl_cons, set, ih (by simpa using ordered) later]
    simp

end BuildWatch.Board
