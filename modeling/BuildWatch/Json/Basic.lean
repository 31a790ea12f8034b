/-! JSON documents as they are written, and what they mean. A written object may repeat
its keys in any order; a settled one has each key once, in order. -/

namespace BuildWatch

/-- Whole numbers of 64 bits stay whole; every other number is a double, kept as its bits. -/
inductive Numeral where
  | whole (value : Int)
  | double (bits : UInt64)
  deriving DecidableEq, Inhabited

inductive Json where
  | null
  | boolean (value : Bool)
  | number (value : Numeral)
  | string (value : String)
  | list (items : List Json)
  | object (fields : List (String × Json))
  deriving Inhabited

namespace Json

/-- Puts a field at its place in an ordered field list; the value of an equal key gives way. -/
def putField (key : String) (value : Json) : List (String × Json) → List (String × Json)
  | [] => [(key, value)]
  | (other, held) :: rest =>
    if key = other then (key, value) :: rest
    else if key < other then (key, value) :: (other, held) :: rest
    else (other, held) :: putField key value rest

mutual

/-- Every object with its keys ordered and, of repeated keys, the last one kept. -/
def settled : Json → Json
  | list items => list (settledItems items)
  | object fields => object (settledFields fields [])
  | plain => plain

def settledItems : List Json → List Json
  | [] => []
  | item :: rest => item.settled :: settledItems rest

def settledFields : List (String × Json) → List (String × Json) → List (String × Json)
  | [], done => done
  | (key, value) :: rest, done => settledFields rest (putField key value.settled done)

end

/-- The value of a key in an object, the last one where the key is repeated. -/
def field? (key : String) : Json → Option Json
  | object fields => (fields.reverse.find? (·.1 == key)).map (·.2)
  | _ => none

def string? : Json → Option String
  | string value => some value
  | _ => none

def ofNat (n : Nat) : Json := number (.whole n)

end Json

end BuildWatch
