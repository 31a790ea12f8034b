import BuildWatch.FileTree

/-! Paths that are followed in two steps. A relative path seen from a directory leads where it leads from within, so what is
found under a directory is found from within it, too, if the directory leads back to itself. -/

namespace BuildWatch.Path

theorem segments_some (text : List Char) : ∃ segment later, segments text = segment :: later := by
  induction text with
  | nil => exact ⟨[], [], rfl⟩
  | cons c rest ih =>
    obtain ⟨segment, later, shape⟩ := ih
    simp only [segments, shape]
    split <;> exact ⟨_, _, rfl⟩

theorem segments_slash (front back : List Char) : segments (front ++ '/' :: back) = segments front ++ segments back := by
  induction front with
  | nil =>
    obtain ⟨segment, later, shape⟩ := segments_some back
    simp [segments, shape]
  | cons c front ih =>
    obtain ⟨segment, later, shape⟩ := segments_some front
    simp only [List.cons_append, segments, ih, shape]
    split <;> rfl

/-- A path seen from a directory continues that of the directory, with a slash between them. -/
theorem join_cases {directory file : Path} (given : directory.text.toList ≠ []) (relative : file.isAbsolute = false) :
    (∃ front, directory.text.toList = front ++ ['/'] ∧
        (directory.join file).text.toList = front ++ '/' :: file.text.toList) ∨
      (directory.join file).text.toList = directory.text.toList ++ '/' :: file.text.toList := by
  have some_text : directory.text.isEmpty = false := by
    rw [← Bool.not_eq_true, String.isEmpty_iff, ← String.toList_inj]
    exact given
  cases ends : directory.text.toList.getLast? == some '/' with
  | true =>
    obtain ⟨front, shape⟩ := List.getLast?_eq_some_iff.mp (eq_of_beq ends)
    refine Or.inl ⟨front, shape, ?_⟩
    simp [join, relative, shape]
  | false =>
    refine Or.inr ?_
    simp [join, relative, ends, some_text]

theorem join_isAbsolute {directory file : Path} (given : directory.text.toList ≠ []) (relative : file.isAbsolute = false) :
    (directory.join file).isAbsolute = directory.isAbsolute := by
  unfold isAbsolute
  rcases join_cases given relative with ⟨front, shape, joined⟩ | joined
  · rw [shape, joined]
    cases front <;> rfl
  · obtain ⟨c, rest, shape⟩ := List.exists_cons_of_ne_nil given
    rw [joined, shape]
    rfl

end BuildWatch.Path

namespace BuildWatch.FileTree
variable {tree : FileTree} {current place inner : Location} {directory file path : Path} {node : Node}

theorem walk_append (tree : FileTree) (place : Location) (first second : List (List Char)) :
    tree.walk place (first ++ second) = (tree.walk place first).bind fun inner => tree.walk inner second := by
  induction first generalizing place with
  | nil => rfl
  | cons segment later ih =>
    simp only [List.cons_append, walk]
    cases tree.step place segment with
    | error fault => rfl
    | ok next => exact ih next

theorem step_nothing (leads : tree.step place [] = .ok inner) : inner = place := by
  unfold step at leads
  split at leads
  next => cases leads
  next =>
    split at leads
    next => cases leads
    next => exact (Except.ok.inj leads).symm

/-- A slash at the end of a path leads no further. -/
theorem walk_slash (segments : List (List Char)) (leads : tree.walk place (segments ++ [[]]) = .ok inner) :
    tree.walk place segments = .ok inner := by
  rw [walk_append] at leads
  cases front : tree.walk place segments with
  | error fault =>
    rw [front] at leads
    cases leads
  | ok middle =>
    rw [front] at leads
    simp only [Except.bind, walk] at leads
    cases stepped : tree.step middle [] with
    | error fault =>
      rw [stepped] at leads
      cases leads
    | ok last =>
      rw [stepped] at leads
      cases leads
      rw [step_nothing stepped]

theorem walk_join (given : directory.text.toList ≠ []) (relative : file.isAbsolute = false)
    (leads : tree.walk place (Path.segments directory.text.toList) = .ok inner) :
    tree.walk place (Path.segments (directory.join file).text.toList) = tree.walk inner (Path.segments file.text.toList) := by
  rcases Path.join_cases given relative with ⟨front, shape, joined⟩ | joined
  · rw [shape, Path.segments_slash] at leads
    rw [joined, Path.segments_slash, walk_append, walk_slash _ leads]
    rfl
  · rw [joined, Path.segments_slash, walk_append, leads]
    rfl

theorem locate_given (leads : tree.locate current path = .ok inner) :
    path.text.toList ≠ [] ∧ path.text.utf8ByteSize ≤ pathLimit ∧
      tree.walk (if path.isAbsolute then [] else current) (Path.segments path.text.toList) = .ok inner := by
  unfold locate at leads
  split at leads
  next => cases leads
  next given =>
    split at leads
    next => cases leads
    next short =>
      refine ⟨fun none => given ?_, Nat.not_lt.mp short, leads⟩
      rw [String.isEmpty_iff, ← String.toList_inj]
      exact none

theorem locate_absolute (absolute : path.isAbsolute = true) (first second : Location) :
    tree.locate first path = tree.locate second path := by
  simp only [locate, absolute, if_true]

theorem locate_join (leads : tree.locate current directory = .ok inner) (relative : file.isAbsolute = false)
    (short : (directory.join file).text.utf8ByteSize ≤ pathLimit) :
    tree.locate current (directory.join file) = tree.walk inner (Path.segments file.text.toList) := by
  obtain ⟨given, -, walked⟩ := locate_given leads
  have some_text : ¬ (directory.join file).text.isEmpty = true := by
    intro none
    rw [String.isEmpty_iff, ← String.toList_inj] at none
    rcases Path.join_cases given relative with ⟨front, -, joined⟩ | joined <;> simp [joined] at none
  rw [locate, if_neg some_text, if_neg (Nat.not_lt.mpr short), Path.join_isAbsolute given relative]
  exact walk_join given relative walked

theorem locate_of_find (found : tree.find current path = .ok node) :
    ∃ place, tree.locate current path = .ok place := by
  unfold find at found
  split at found
  next => cases found
  next place leads => exact ⟨place, leads⟩

/-- What is found under a directory is found from within it, too, if the directory leads back to itself. -/
theorem find_within (leads : tree.locate current directory = .ok inner)
    (found : tree.find current (directory.join file) = .ok node)
    (back : directory.isAbsolute = true ∨ file.isAbsolute = true ∨ tree.locate inner directory = .ok inner) :
    tree.find inner (directory.join file) = .ok node := by
  have same : tree.locate inner (directory.join file) = tree.locate current (directory.join file) := by
    cases absolute : file.isAbsolute with
    | true =>
      rw [show directory.join file = file from if_pos absolute]
      exact locate_absolute absolute inner current
    | false =>
      have returns : tree.locate inner directory = .ok inner := by
        rcases back with rooted | rooted | returns
        · exact (locate_absolute rooted inner current).trans leads
        · rw [rooted] at absolute
          cases absolute
        · exact returns
      obtain ⟨place, located⟩ := locate_of_find found
      obtain ⟨-, short, -⟩ := locate_given located
      rw [locate_join leads absolute short, locate_join returns absolute short]
  rw [← found, find, find, same]

end BuildWatch.FileTree
