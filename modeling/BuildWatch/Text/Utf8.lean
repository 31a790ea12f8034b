/-! Reading bytes as UTF-8. A strict reader names the first offending byte, a lenient
one writes a replacement character for each maximal broken part. -/

namespace BuildWatch.Utf8

/-- What the bytes at one position hold: a character, a part that can never become one,
or the beginning of one that the input cuts off. -/
inductive Item where
  | char (c : Char)
  | broken
  | cutOff

def isContinuation (b : UInt8) : Bool := 0x80 ≤ b && b ≤ 0xbf

def low (b : UInt8) (keep : Nat) : Nat := b.toNat % keep

/-- The smallest and largest second byte that a first byte of three or four byte characters admits. -/
def secondRange (first : UInt8) : UInt8 × UInt8 :=
  if first == 0xe0 then (0xa0, 0xbf)
  else if first == 0xed then (0x80, 0x9f)
  else if first == 0xf0 then (0x90, 0xbf)
  else if first == 0xf4 then (0x80, 0x8f)
  else (0x80, 0xbf)

/-- The item that starts with `first`, and how many of the following bytes belong to it. -/
def item (first : UInt8) (rest : List UInt8) : Item × Nat :=
  if first < 0x80 then (.char (Char.ofNat first.toNat), 0)
  else if 0xc2 ≤ first && first ≤ 0xdf then
    match rest with
    | [] => (.cutOff, 0)
    | b :: _ =>
      if isContinuation b then (.char (Char.ofNat (low first 32 * 64 + low b 64)), 1) else (.broken, 0)
  else if 0xe0 ≤ first && first ≤ 0xef then
    let (least, greatest) := secondRange first
    match rest with
    | [] => (.cutOff, 0)
    | b :: more =>
      if !(least ≤ b && b ≤ greatest) then (.broken, 0)
      else match more with
        | [] => (.cutOff, 1)
        | c :: _ =>
          if isContinuation c then
            (.char (Char.ofNat ((low first 16 * 64 + low b 64) * 64 + low c 64)), 2)
          else (.broken, 1)
  else if 0xf0 ≤ first && first ≤ 0xf4 then
    let (least, greatest) := secondRange first
    match rest with
    | [] => (.cutOff, 0)
    | b :: more =>
      if !(least ≤ b && b ≤ greatest) then (.broken, 0)
      else match more with
        | [] => (.cutOff, 1)
        | c :: more =>
          if !isContinuation c then (.broken, 1)
          else match more with
            | [] => (.cutOff, 2)
            | d :: _ =>
              if isContinuation d then
                (.char (Char.ofNat (((low first 8 * 64 + low b 64) * 64 + low c 64) * 64 + low d 64)), 3)
              else (.broken, 2)
  else (.broken, 0)

inductive Fault where
  | invalid (bytes index : Nat)
  | incomplete (index : Nat)

def Fault.message : Fault → String
  | .invalid bytes index => s!"invalid utf-8 sequence of {bytes} bytes from index {index}"
  | .incomplete index => s!"incomplete utf-8 byte sequence from index {index}"

/-- Reads the whole input or names the first part that is not UTF-8. -/
def decode (bytes : List UInt8) : Except Fault String :=
  go bytes 0 []
where
  go : List UInt8 → Nat → List Char → Except Fault String
    | [], _, read => .ok (String.ofList read.reverse)
    | first :: rest, index, read =>
      match item first rest with
      | (.char c, more) => go (rest.drop more) (index + 1 + more) (c :: read)
      | (.broken, more) => .error (.invalid (1 + more) index)
      | (.cutOff, _) => .error (.incomplete index)
  termination_by bytes => bytes.length
  decreasing_by simp only [List.length_drop, List.length_cons]; omega

/-- Reads everything, with U+FFFD in the place of each broken part. -/
def decodeLossy (bytes : List UInt8) : String :=
  String.ofList (go bytes)
where
  go : List UInt8 → List Char
    | [] => []
    | first :: rest =>
      match item first rest with
      | (.char c, more) => c :: go (rest.drop more)
      | (.broken, more) => '\ufffd' :: go (rest.drop more)
      | (.cutOff, _) => ['\ufffd']
  termination_by bytes => bytes.length
  decreasing_by all_goals (simp only [List.length_drop, List.length_cons]; omega)

def encode (text : String) : List UInt8 := text.toUTF8.toList

end BuildWatch.Utf8
