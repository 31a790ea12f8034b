import BuildWatch.Toolbox.Awk.Value
import Std.Data.HashMap

/-! Tables of values under keys. The keys come in an order that depends on all that have been put in. -/

namespace BuildWatch.Toolbox.Awk

structure Entry where
  value : Value := .none
  /-- How many entries were put in before. -/
  stamp : Nat
  /-- The key was a number when it was put in. -/
  byNumber : Bool
  deriving Inhabited

structure Table where
  entries : Std.HashMap String Entry := {}
  next : Nat := 0
  deriving Inhabited

namespace Table

def get? (table : Table) (key : String) : Option Value := (table.entries.get? key).map (·.value)

def contains (table : Table) (key : String) : Bool := table.entries.contains key

def put (key : String) (byNumber : Bool) (value : Value) (table : Table) : Table :=
  match table.entries.get? key with
  | some entry => { table with entries := table.entries.insert key { entry with value } }
  | Option.none => { entries := table.entries.insert key { value, stamp := table.next, byNumber }, next := table.next + 1 }

def erase (key : String) (table : Table) : Table := { table with entries := table.entries.erase key }

/-- The values of a list, under their places. -/
def ofList (values : List Value) : Table :=
  (values.zipIdx 1).foldl (fun table (value, place) => table.put (toString place) true value) {}

/-- Spreads keys over shelves. -/
def hash (key : String) : Nat :=
  key.toList.foldl (fun sum c => (sum ^^^ c.toNat) * 16777619 % 4294967296) 2166136261

/-- How many shelves there are for so many entries. -/
def shelves (fuel count shelfCount : Nat) : Nat :=
  match fuel with
  | 0 => shelfCount
  | fuel + 1 => if shelfCount * 12 < count then shelves fuel count (shelfCount * 2) else shelfCount

/-- One list of numbers comes ahead of another one that is larger at the first place where they differ. -/
def isAhead : List Nat → List Nat → Bool
  | first :: rest, other :: others => first < other || (first == other && isAhead rest others)
  | [], _ => true
  | _ :: _, [] => false

/-- The keys shelf by shelf. On a shelf the last one put in comes first; numbers are put in by their last digits. -/
def keys (table : Table) : List String :=
  let entries := table.entries.toList
  let count := shelves 64 entries.length 64
  let areNumbers := entries.all (·.2.byNumber)
  let lastDigits (key : String) : Nat := Ascii.number 10 (key.toList.filter Char.isDigit) % count
  let rank (key : String) (entry : Entry) : List Nat :=
    if areNumbers then [hash key % count, count - 1 - lastDigits key, entry.stamp] else [hash key % count, table.next - entry.stamp]
  ((entries.map fun (key, entry) => (rank key entry, key)).mergeSort fun a b => isAhead a.1 b.1).map (·.2)

end Table

end BuildWatch.Toolbox.Awk
