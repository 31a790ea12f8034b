import BuildWatch.Proofs.BoardOrder
import Mathlib.Algebra.Group.Nat.Defs
import Mathlib.Data.List.Induction

/-! What a board shows after some writes, told from the writes alone. To every file belong the items it was given last,
under the spelling it was first given any, and what comes before the file was last taken off does not count. -/

namespace BuildWatch.Board

inductive Write where
  | clear
  | set (file : Path) (items : List Diagnostic)

def write (board : Board) : Write → Board
  | .clear => board.clear
  | .set file items => board.set file items

def written (writes : List Write) : Board := writes.foldl write {}

theorem written_snoc (writes : List Write) (last : Write) : written (writes ++ [last]) = (written writes).write last := by
  simp [written]

/-- What a file was given since it was last absent, read backwards: the latest comes first. -/
def givenSince (file : Path) : List Write → List FileDiagnostics
  | [] | .clear :: _ => []
  | .set other items :: earlier =>
    if !file.equivalent other then givenSince file earlier
    else if items.isEmpty then []
    else (other, items) :: givenSince file earlier

/-- The latest items of a file, under its first spelling. -/
def held? (file : Path) (writes : List Write) : Option FileDiagnostics :=
  match givenSince file writes.reverse with
  | [] => none
  | latest :: earlier => some ((earlier.getLastD latest).1, latest.2)

theorem held?_clear (file : Path) (writes : List Write) : held? file (writes ++ [.clear]) = none := by
  simp [held?, givenSince]

theorem held?_set (file other : Path) (items : List Diagnostic) (writes : List Write) :
    held? file (writes ++ [.set other items]) =
      if !file.equivalent other then held? file writes
      else if items.isEmpty then none
      else some (((held? file writes).map (·.1)).getD other, items) := by
  simp only [held?, List.reverse_append, List.reverse_singleton, List.singleton_append, givenSince]
  by_cases same : file.equivalent other = true
  · by_cases empty : items.isEmpty = true
    · simp [same, empty]
    · cases givenSince file writes.reverse <;> simp [same, empty, List.getLast?_cons]
  · simp [same]

/-! ### One write -/

theorem insert_eq_alter (file : Path) (items : List Diagnostic) (files : List FileDiagnostics) :
    insert file items files = alter file (fun _ => items) files := by
  induction files with
  | nil => rfl
  | cons entry rest ih => simp [insert, alter, ih]

/-- A board as writes leave it: in order, and with items for every file on it. -/
structure Kept (board : Board) : Prop where
  ordered : Ordered board.files
  filled : ∀ entry ∈ board.files, entry.2 ≠ []

/-- The entry of a file, under whatever spelling. -/
def shown? (board : Board) (file : Path) : Option FileDiagnostics :=
  board.files.find? fun entry => file.equivalent entry.1

theorem find?_of_mem {file : Path} {entry : FileDiagnostics} {files : List FileDiagnostics} (ordered : Ordered files)
    (member : entry ∈ files) (same : file.equivalent entry.1 = true) :
    files.find? (fun other => file.equivalent other.1) = some entry := by
  induction files with
  | nil => cases member
  | cons first rest ih =>
    obtain ⟨least, later⟩ := List.pairwise_cons.mp ordered
    rcases List.mem_cons.mp member with rfl | inside
    · simp [same]
    · have different : file.equivalent first.1 = false := by
        rw [Path.equivalent_congr same, Path.equivalent_comm]
        exact Path.not_equivalent_of_before (least entry inside)
      simp [different, ih later inside]

theorem Kept.shown?_iff {board : Board} (kept : board.Kept) {file : Path} {entry : FileDiagnostics} :
    board.shown? file = some entry ↔ entry ∈ board.files ∧ file.equivalent entry.1 = true := by
  constructor
  · intro found
    exact ⟨List.mem_of_find?_eq_some found, by simpa using List.find?_some found⟩
  · rintro ⟨member, same⟩
    exact find?_of_mem kept.ordered member same

theorem find?_insert (other file : Path) (items : List Diagnostic) {files : List FileDiagnostics} (ordered : Ordered files) :
    (insert file items files).find? (fun entry => other.equivalent entry.1) =
      if !other.equivalent file then files.find? fun entry => other.equivalent entry.1
      else some (((files.find? fun entry => other.equivalent entry.1).map (·.1)).getD file, items) := by
  induction files with
  | nil => cases same : other.equivalent file <;> simp [insert, same]
  | cons first rest ih =>
    obtain ⟨key, held⟩ := first
    obtain ⟨least, later⟩ := List.pairwise_cons.mp ordered
    simp only [insert]
    split
    next same =>
      -- the file is the first one, and keeps its spelling
      have both : other.equivalent file = other.equivalent key := by
        rw [Path.equivalent_comm, Path.equivalent_comm other, Path.equivalent_congr same]
      cases found : other.equivalent key <;> simp [both, found]
    next different =>
      split
      next less =>
        cases same : other.equivalent file with
        | false => simp [same]
        | true =>
          have absent : ((key, held) :: rest).find? (fun entry => other.equivalent entry.1) = none := by
            apply List.find?_eq_none.mpr
            intro entry member found
            have behind : file.before entry.1 = true := by
              rcases List.mem_cons.mp member with rfl | inside
              · exact less
              · exact Path.before_trans less (least entry inside)
            rw [Path.equivalent_congr same, Path.not_equivalent_of_before behind] at found
            cases found
          simp [same, absent]
      next =>
        cases found : other.equivalent key with
        | false => simp [found, ih later]
        | true =>
          have apart : other.equivalent file = false := by
            rw [Path.equivalent_congr found, Path.equivalent_comm]
            exact Bool.eq_false_iff.mpr different
          simp [found, apart]

theorem find?_without (other file : Path) (files : List FileDiagnostics) :
    (files.filter fun entry => !file.equivalent entry.1).find? (fun entry => other.equivalent entry.1) =
      if !other.equivalent file then files.find? fun entry => other.equivalent entry.1 else none := by
  cases same : other.equivalent file with
  | true =>
    simp only [Bool.not_true, Bool.false_eq_true, if_false]
    apply List.find?_eq_none.mpr
    intro entry member found
    have kept := (List.mem_filter.mp member).2
    rw [← Path.equivalent_congr same, found] at kept
    cases kept
  | false =>
    simp only [Bool.not_false, if_true, List.find?_filter]
    congr 1
    funext entry
    cases found : other.equivalent entry.1 with
    | false => simp
    | true =>
      rw [Path.equivalent_congr found, Path.equivalent_comm] at same
      simp [same]

theorem Kept.shown?_write {board : Board} (kept : board.Kept) (other file : Path) (items : List Diagnostic) :
    (board.write (.set file items)).shown? other =
      if !other.equivalent file then board.shown? other
      else if items.isEmpty then none
      else some (((board.shown? other).map (·.1)).getD file, items) := by
  simp only [Board.write, Board.set, shown?]
  split
  next => exact find?_without other file board.files
  next => exact find?_insert other file items kept.ordered

theorem Kept.write {board : Board} (kept : board.Kept) (last : Write) : (board.write last).Kept := by
  cases last with
  | clear => exact ⟨.nil, List.forall_mem_nil _⟩
  | set file items =>
    simp only [Board.write, Board.set]
    split
    next => exact ⟨kept.ordered.sublist List.filter_sublist, fun entry member => kept.filled entry (List.mem_filter.mp member).1⟩
    next some =>
      rw [insert_eq_alter]
      refine ⟨kept.ordered.alter _ _, ?_⟩
      intro entry member
      have nonempty : items ≠ [] := by simpa using some
      rcases kept.ordered.mem_alter _ _ member with ⟨old, _⟩ | ⟨held, _, _, new⟩ | ⟨_, rfl⟩
      · exact kept.filled entry old
      · rw [new]
        exact nonempty
      · exact nonempty

/-! ### All writes -/

theorem written_kept (writes : List Write) : (written writes).Kept := by
  induction writes using List.reverseRecOn with
  | nil => exact ⟨.nil, List.forall_mem_nil _⟩
  | append_singleton writes last ih =>
    rw [written_snoc]
    exact ih.write last

theorem written_shown? (writes : List Write) (file : Path) : (written writes).shown? file = held? file writes := by
  induction writes using List.reverseRecOn with
  | nil => rfl
  | append_singleton writes last ih =>
    rw [written_snoc]
    cases last with
    | clear => rw [held?_clear]; rfl
    | set other items => rw [(written_kept writes).shown?_write, held?_set, ih]

/-! ### What is shown -/

/-- How many items of the snapshot have a severity. -/
def tally (severity : Severity) (board : Board) : Nat := (board.snapshot.flatMap (·.2)).countP (·.severity == severity)

/-- All that can be asked of a board answers for what the writes have given to the files. Its summary does so as long as
the items can be counted in 32 bits. -/
structure Displays (writes : List Write) (board : Board) : Prop where
  found : ∀ file, board.items? file = (held? file writes).map (·.2)
  listed : ∀ file entry, held? file writes = some entry ↔ entry ∈ board.snapshot ∧ file.equivalent entry.1 = true
  once : board.snapshot.Pairwise fun one other => one.1.equivalent other.1 = false
  grouped : ∃ failing passing, board.snapshot = failing ++ passing ∧ Ordered failing ∧ Ordered passing ∧
    (∀ entry ∈ failing, ∃ item ∈ entry.2, item.severity = .error) ∧
    ∀ entry ∈ passing, ∀ item ∈ entry.2, item.severity ≠ .error
  size : board.size = (board.snapshot.flatMap (·.2)).length
  isEmpty : board.isEmpty = true ↔ board.snapshot = []
  silent : board.size < 2 ^ 31 → (board.summary = "" ↔ board.snapshot = [])
  counted : board.size < 2 ^ 31 → board.snapshot ≠ [] →
    board.summary = s!"E:{board.tally .error} W:{board.tally .warning}" ∧
    board.tally .error + board.tally .warning = board.size

theorem snapshot_perm (board : Board) : board.snapshot.Perm board.files := List.filter_append_perm hasError board.files

theorem hasError_iff {entry : FileDiagnostics} : hasError entry = true ↔ ∃ item ∈ entry.2, item.severity = .error := by
  simp [hasError]

theorem items_perm (board : Board) : (board.files.flatMap (·.2)).Perm (board.snapshot.flatMap (·.2)) :=
  board.snapshot_perm.symm.flatMap_right _

theorem size_eq (board : Board) : board.size = (board.snapshot.flatMap (·.2)).length := board.items_perm.length_eq

theorem foldl_count (severity : Severity) (items : List Diagnostic) (start : Nat) :
    items.foldl (fun count item => if item.severity == severity then count + 1 else count) (Int32.ofNat start) =
      Int32.ofNat (start + items.countP (·.severity == severity)) := by
  induction items generalizing start with
  | nil => rfl
  | cons item rest ih =>
    have next : Int32.ofNat start + 1 = Int32.ofNat (start + 1) := (Int32.ofNat_add start 1).symm
    rw [List.foldl_cons, List.countP_cons]
    split
    next => rw [next, ih, Nat.add_right_comm, Nat.add_assoc]
    next => rw [ih, Nat.add_zero]

/-- The counters count modulo their size. -/
theorem count_eq (severity : Severity) (board : Board) : board.count severity = Int32.ofNat (board.tally severity) := by
  have counted := foldl_count severity (board.files.flatMap (·.2)) 0
  rw [board.items_perm.countP_eq, Nat.zero_add] at counted
  exact counted

/-- Every item is an error or a warning. -/
theorem tally_add_tally (board : Board) : board.tally .error + board.tally .warning = board.size := by
  have other : (fun item : Diagnostic => item.severity == .warning) =
      fun item => decide ¬(item.severity == .error) = true := by
    funext item
    cases item.severity <;> rfl
  rw [size_eq, tally, tally, other, ← List.length_eq_countP_add_countP]

theorem toInt_count {board : Board} (few : board.size < 2 ^ 31) (severity : Severity) :
    (board.count severity).toInt = board.tally severity := by
  have sum := board.tally_add_tally
  rw [count_eq, Int32.toInt_ofNat_of_lt]
  cases severity <;> omega

theorem Kept.size_eq_zero {board : Board} (kept : board.Kept) : board.size = 0 ↔ board.snapshot = [] := by
  rw [size_eq, List.length_eq_zero_iff, List.flatMap_eq_nil_iff]
  constructor
  · intro empty
    apply List.eq_nil_iff_forall_not_mem.mpr
    intro entry member
    exact kept.filled entry (board.snapshot_perm.mem_iff.mp member) (empty entry member)
  · intro empty
    simp [empty]

theorem summary_eq {board : Board} (few : board.size < 2 ^ 31) :
    board.summary = if board.size = 0 then "" else s!"E:{board.tally .error} W:{board.tally .warning}" := by
  have sum := board.tally_add_tally
  have zero (severity : Severity) : board.count severity = 0 ↔ board.tally severity = 0 := by
    rw [← Int32.toInt_inj, toInt_count few, Int32.toInt_zero, Int.natCast_eq_zero]
  have none : (board.count .error == 0 && board.count .warning == 0) = true ↔ board.size = 0 := by
    simp only [Bool.and_eq_true, beq_iff_eq, zero]
    omega
  have text (severity : Severity) : toString (board.count severity) = toString (board.tally severity) :=
    congrArg toString (toInt_count few severity)
  simp only [summary, none, text]

theorem written_displays (writes : List Write) : Displays writes (written writes) where
  found := by
    intro file
    rw [← written_shown?]
    rfl
  listed := by
    intro file entry
    rw [← written_shown?, (written_kept writes).shown?_iff, (written writes).snapshot_perm.mem_iff]
  once := by
    have apart := (written_kept writes).ordered.imp fun less => Path.not_equivalent_of_before less
    refine (written writes).snapshot_perm.symm.pairwise apart ?_
    intro one other different
    rw [Path.equivalent_comm]
    exact different
  grouped := by
    refine ⟨_, _, rfl, (written_kept writes).ordered.sublist List.filter_sublist,
      (written_kept writes).ordered.sublist List.filter_sublist, ?_, ?_⟩
    · intro entry member
      exact hasError_iff.mp (List.mem_filter.mp member).2
    · intro entry member item inside error
      have none := (List.mem_filter.mp member).2
      rw [hasError_iff.mpr ⟨item, inside, error⟩] at none
      cases none
  size := size_eq _
  isEmpty := by rw [Board.isEmpty, beq_iff_eq, (written_kept writes).size_eq_zero]
  silent := by
    intro few
    rw [summary_eq few, ← (written_kept writes).size_eq_zero]
    split
    next none => simp [none]
    next some =>
      refine iff_of_false ?_ some
      intro empty
      have text := congrArg String.toList empty
      simp at text
  counted := by
    intro few shown
    refine ⟨?_, tally_add_tally _⟩
    rw [summary_eq few, if_neg (mt (written_kept writes).size_eq_zero.mp shown)]

end BuildWatch.Board
