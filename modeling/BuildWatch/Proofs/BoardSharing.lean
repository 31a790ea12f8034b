import BuildWatch.Board.Shared
import BuildWatch.Proofs.BoardWrites

/-! Boards in several hands. Copies of a holder write to one board and see one board, and what is written through the
holders of other boards in between makes no difference to them. -/

namespace BuildWatch.SharedBoards
open Board

/-- What is done with the holders of boards. -/
inductive Use where
  | set (holder : Nat) (file : Path) (items : List Diagnostic)
  | clear (holder : Nat)
  | share (holder : Nat)
  | create

def perform (shared : SharedBoards) : Use → SharedBoards
  | .set holder file items => shared.set holder file items
  | .clear holder => shared.clear holder
  | .share holder => shared.share holder
  | .create => shared.create

def after (uses : List Use) : SharedBoards := uses.foldl perform {}

/-- The first holder of a board that a holder goes back to. A holder that does not exist stands for the very first one. -/
def origin (origins : List Nat) (holder : Nat) : Nat := origins.getD holder 0

/-- The origins of all holders: a copy has that of the holder it was made from, and any other holder is one itself. -/
def Use.trace (origins : List Nat) : Use → List Nat
  | .share holder => origins ++ [origin origins holder]
  | .create => origins ++ [origins.length]
  | _ => origins

def origins (uses : List Use) : List Nat := uses.foldl Use.trace [0]

/-- What a use writes to the board of a holder and its copies. -/
def Use.write? (origins : List Nat) (first : Nat) : Use → Option Write
  | .set holder file items => if origin origins holder = first then some (.set file items) else none
  | .clear holder => if origin origins holder = first then some .clear else none
  | _ => none

/-- All that is written to that board, by whatever holder. -/
def writes (first : Nat) (traced : List Nat) : List Use → List Write
  | [] => []
  | use :: later => (use.write? traced first).toList ++ writes first (use.trace traced) later

theorem after_snoc (uses : List Use) (last : Use) : after (uses ++ [last]) = (after uses).perform last := by
  simp [after]

theorem origins_snoc (uses : List Use) (last : Use) : origins (uses ++ [last]) = last.trace (origins uses) := by
  simp [origins]

theorem writes_snoc (first : Nat) (uses : List Use) (last : Use) :
    writes first [0] (uses ++ [last]) = writes first [0] uses ++ (last.write? (origins uses) first).toList := by
  have further (traced : List Nat) : writes first traced (uses ++ [last]) =
      writes first traced uses ++ (last.write? (uses.foldl Use.trace traced) first).toList := by
    induction uses generalizing traced with
    | nil => simp [writes]
    | cons use later ih => simp [writes, ih]
  exact further [0]

/-- Holders and boards after some uses: two holders have the same board just if they have the same origin, and it
shows what was written through its holders. -/
structure Traced (uses : List Use) : Prop where
  counted : (after uses).holders.length = (origins uses).length
  here : ∀ holder, (after uses).boardOf holder < (after uses).boards.length
  known : ∀ holder, origin (origins uses) holder < (origins uses).length
  same : ∀ one other, (after uses).boardOf one = (after uses).boardOf other ↔
    origin (origins uses) one = origin (origins uses) other
  fresh : ∀ first, (origins uses).length ≤ first → writes first [0] uses = []
  shows : ∀ holder, (after uses).board holder = written (writes (origin (origins uses) holder) [0] uses)

theorem getD_snoc (items : List Nat) (last index : Nat) :
    (items ++ [last]).getD index 0 = if index = items.length then last else items.getD index 0 := by
  simp only [List.getD_eq_getElem?_getD, List.getElem?_append]
  split
  next below => rw [if_neg (Nat.ne_of_lt below)]
  next above =>
    split
    next last => simp [last]
    next beyond => rw [List.getElem?_eq_none (by simp; omega), List.getElem?_eq_none (by omega)]

theorem board_modify (shared : SharedBoards) (holder other : Nat) (change : Board → Board)
    (here : shared.boardOf other < shared.boards.length) :
    (shared.modify holder change).board other =
      if shared.boardOf other = shared.boardOf holder then change (shared.board other) else shared.board other := by
  have same : (shared.modify holder change).boardOf other = shared.boardOf other := rfl
  rw [board, same, board, modify]
  simp only [List.getD_eq_getElem?_getD, List.getElem?_modify, List.getElem?_eq_getElem here, Option.getD_some]
  split
  next hit =>
    rw [if_pos hit.symm]
    rfl
  next miss =>
    rw [if_neg (Ne.symm miss)]
    rfl

namespace Traced
variable {uses : List Use}

theorem nil : Traced [] where
  counted := rfl
  here := by
    intro holder
    cases holder <;> exact Nat.zero_lt_one
  known := by
    intro holder
    cases holder <;> exact Nat.zero_lt_one
  same := by
    intro one other
    cases one <;> cases other <;> exact iff_of_true rfl rfl
  fresh := fun _ _ => rfl
  shows := by
    intro holder
    cases holder <;> rfl

/-- A write is seen through the holders of its board, and through no others. -/
theorem write (traced : Traced uses) (one : Write) {use : Use} {holder : Nat}
    (performed : (after uses).perform use = (after uses).modify holder (·.write one))
    (kept : use.trace (origins uses) = origins uses)
    (writes : ∀ first, use.write? (origins uses) first = if origin (origins uses) holder = first then some one else none) :
    Traced (uses ++ [use]) := by
  have still (other : Nat) : (after (uses ++ [use])).boardOf other = (after uses).boardOf other := by
    rw [after_snoc, performed]
    rfl
  have traces : origins (uses ++ [use]) = origins uses := by rw [origins_snoc, kept]
  have many : (after (uses ++ [use])).boards.length = (after uses).boards.length := by
    rw [after_snoc, performed]
    exact List.length_modify ..
  refine ⟨?_, ?_, ?_, ?_, ?_, ?_⟩
  · rw [after_snoc, performed, traces]
    exact traced.counted
  · intro other
    rw [still, many]
    exact traced.here other
  · rw [traces]
    exact traced.known
  · intro one other
    rw [still, still, traces]
    exact traced.same one other
  · intro first beyond
    rw [traces] at beyond
    have known := traced.known holder
    rw [writes_snoc, traced.fresh first beyond, writes, if_neg (by omega)]
    rfl
  · intro other
    rw [traces, writes_snoc, writes, after_snoc, performed, board_modify _ _ _ _ (traced.here other), traced.shows]
    split
    next hit =>
      rw [if_pos ((traced.same other holder).mp hit).symm]
      exact (written_snoc _ one).symm
    next miss =>
      rw [if_neg fun hit => miss ((traced.same other holder).mpr hit.symm)]
      exact congrArg written (List.append_nil _).symm

/-- A use that makes a new holder is as good as the board and the origin that the holder gets. -/
theorem newcomer (traced : Traced uses) (more : List Board) {use : Use} {number first : Nat}
    (performed : (after uses).perform use = ⟨(after uses).boards ++ more, (after uses).holders ++ [number]⟩)
    (trace : use.trace (origins uses) = origins uses ++ [first])
    (silent : ∀ other, use.write? (origins uses) other = none)
    (here : number < ((after uses).boards ++ more).length) (known : first ≤ (origins uses).length)
    (same : ∀ other, (after uses).boardOf other = number ↔ origin (origins uses) other = first)
    (shows : ((after uses).boards ++ more).getD number {} = written (writes first [0] uses)) :
    Traced (uses ++ [use]) := by
  have boards : (after (uses ++ [use])).boards = (after uses).boards ++ more := by rw [after_snoc, performed]
  have numbers (other : Nat) : (after (uses ++ [use])).boardOf other =
      if other = (origins uses).length then number else (after uses).boardOf other := by
    rw [after_snoc, performed, boardOf, getD_snoc, traced.counted]
    rfl
  have traces (other : Nat) : origin (origins (uses ++ [use])) other =
      if other = (origins uses).length then first else origin (origins uses) other := by
    rw [origins_snoc, trace, origin, getD_snoc]
    rfl
  have longer : (origins (uses ++ [use])).length = (origins uses).length + 1 := by
    rw [origins_snoc, trace, List.length_append, List.length_singleton]
  have unwritten (other : Nat) : writes other [0] (uses ++ [use]) = writes other [0] uses := by
    rw [writes_snoc, silent]
    exact List.append_nil _
  refine ⟨?_, ?_, ?_, ?_, ?_, ?_⟩
  · rw [longer, after_snoc, performed, ← traced.counted, List.length_append, List.length_singleton]
  · intro other
    rw [numbers, boards]
    split
    next => exact here
    next => exact Nat.lt_of_lt_of_le (traced.here other) (by simp)
  · intro other
    have below := traced.known other
    rw [traces, longer]
    split <;> omega
  · intro one other
    rw [numbers, numbers, traces, traces]
    split <;> split
    · exact iff_of_true rfl rfl
    · rw [eq_comm, same, eq_comm]
    · exact same one
    · exact traced.same one other
  · intro other beyond
    rw [unwritten]
    exact traced.fresh other (by omega)
  · intro other
    rw [traces, unwritten, board, numbers, boards]
    split
    next => exact shows
    next =>
      rw [← traced.shows, board, List.getD_eq_getElem?_getD, List.getElem?_append_left (traced.here other),
        ← List.getD_eq_getElem?_getD]

theorem share (traced : Traced uses) (holder : Nat) : Traced (uses ++ [.share holder]) := by
  refine traced.newcomer [] (by rw [List.append_nil]; rfl) rfl (fun _ => rfl) ?_
    (Nat.le_of_lt (traced.known holder)) (fun other => traced.same other holder) ?_
  · rw [List.append_nil]
    exact traced.here holder
  · rw [List.append_nil]
    exact traced.shows holder

theorem create (traced : Traced uses) : Traced (uses ++ [.create]) := by
  refine traced.newcomer [{}] rfl rfl (fun _ => rfl) (by simp) (Nat.le_refl _) ?_ ?_
  · intro other
    exact iff_of_false (Nat.ne_of_lt (traced.here other)) (Nat.ne_of_lt (traced.known other))
  · rw [traced.fresh _ (Nat.le_refl _), List.getD_eq_getElem?_getD, List.getElem?_append_right (Nat.le_refl _), Nat.sub_self]
    rfl

end Traced

theorem traced (uses : List Use) : Traced uses := by
  induction uses using List.reverseRecOn with
  | nil => exact .nil
  | append_singleton uses last ih =>
    cases last with
    | set holder file items => exact ih.write (.set file items) rfl rfl fun _ => rfl
    | clear holder => exact ih.write .clear rfl rfl fun _ => rfl
    | share holder => exact ih.share holder
    | create => exact ih.create

/-- Whatever is done with the holders of boards, each of them shows what was written through itself, through its copies and
through the holders that it is a copy of, and nothing else. So all of them show the same. -/
theorem holders_show_writes (uses : List Use) :
    (∀ holder, Displays (writes (origin (origins uses) holder) [0] uses) ((after uses).board holder)) ∧
    ∀ one other, origin (origins uses) one = origin (origins uses) other →
      (after uses).board one = (after uses).board other := by
  refine ⟨?_, ?_⟩
  · intro holder
    rw [(traced uses).shows]
    exact written_displays _
  · intro one other same
    rw [(traced uses).shows, (traced uses).shows, same]

/-- Two holders of one board write to one file under two spellings, and a third holder has a board of its own. -/
theorem copies_share_latest_items :
    let finding (message : String) : Diagnostic := ⟨⟨"/a/b"⟩, .point 0 0, message, .error⟩
    let uses : List Use := [.share 0, .create, .set 0 ⟨"/a//b"⟩ [finding "first"], .set 2 ⟨"/a/b"⟩ [],
      .set 1 ⟨"/a/b"⟩ [finding "second"]]
    (after uses).board 0 = (after uses).board 1 ∧
      (⟨"/a//b"⟩, [finding "second"]) ∈ ((after uses).board 1).snapshot ∧
      ((after uses).board 1).summary = "E:1 W:0" ∧ ((after uses).board 2).summary = "" := by
  intro finding uses
  obtain ⟨shows, same⟩ := holders_show_writes uses
  have listed : (⟨"/a//b"⟩, [finding "second"]) ∈ ((after uses).board 1).snapshot :=
    (((shows 1).listed ⟨"/a/b"⟩ _).mp (by decide +kernel)).1
  have few : ((after uses).board 1).size < 2 ^ 31 := by decide +kernel
  obtain ⟨summary, _⟩ := (shows 1).counted few (List.ne_nil_of_mem listed)
  exact ⟨same 0 1 rfl, listed, summary.trans (by decide +kernel), ((shows 2).silent (by decide +kernel)).mpr (by decide +kernel)⟩

end BuildWatch.SharedBoards
