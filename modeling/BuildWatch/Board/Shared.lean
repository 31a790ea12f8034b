import BuildWatch.Board

/-! Boards that several holders write to and read from. A holder that is copied goes on sharing the
board of the one it was copied from. -/

namespace BuildWatch

/-- Holders by number, each with the number of its board. -/
structure SharedBoards where
  boards : List Board := [{}]
  holders : List Nat := [0]
  deriving Inhabited

namespace SharedBoards

def boardOf (shared : SharedBoards) (holder : Nat) : Nat := shared.holders.getD holder 0

def board (shared : SharedBoards) (holder : Nat) : Board := shared.boards.getD (shared.boardOf holder) {}

def modify (shared : SharedBoards) (holder : Nat) (change : Board → Board) : SharedBoards :=
  { shared with boards := shared.boards.modify (shared.boardOf holder) change }

def set (shared : SharedBoards) (holder : Nat) (file : Path) (items : List Diagnostic) : SharedBoards :=
  shared.modify holder (·.set file items)

def clear (shared : SharedBoards) (holder : Nat) : SharedBoards := shared.modify holder Board.clear

/-- A new holder of the same board. -/
def share (shared : SharedBoards) (holder : Nat) : SharedBoards :=
  { shared with holders := shared.holders ++ [shared.boardOf holder] }

/-- A new holder of an empty board of its own. -/
def create (shared : SharedBoards) : SharedBoards :=
  ⟨shared.boards ++ [({} : Board)], shared.holders ++ [shared.boards.length]⟩

end SharedBoards

end BuildWatch
