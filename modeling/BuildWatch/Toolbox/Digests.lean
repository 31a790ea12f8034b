import BuildWatch.Toolbox.Options

/-! Short numbers that tell long inputs apart. Words are natural numbers below a power of two. -/

namespace BuildWatch.Toolbox

open Machine

namespace Digest

/-- A word turned round to the left. -/
def turnLeft (width count word : Nat) : Nat :=
  (word <<< count) % Nat.pow 2 width ||| (word >>> (width - count))

def turnRight (width count word : Nat) : Nat := turnLeft width (width - count) word

/-- The bits that a word does not have. -/
def inverted (width word : Nat) : Nat := Nat.pow 2 width - 1 - word

/-- The input behind which a one, zeros, and its size in bits stand, so that it comes out even. -/
def padded (block sizeBytes : Nat) (bigEnd : Bool) (bytes : List UInt8) : List UInt8 :=
  let zeros := (2 * block - (bytes.length + 1 + sizeBytes) % block) % block
  let size := (List.range sizeBytes).map fun place => UInt8.ofNat (bytes.length * 8 / Nat.pow 256 place % 256)
  bytes ++ 128 :: List.replicate zeros 0 ++ (if bigEnd then size.reverse else size)

def groups (fuel size : Nat) (bytes : List UInt8) : List (List UInt8) :=
  match fuel with
  | 0 => []
  | fuel + 1 => if bytes.isEmpty then [] else bytes.take size :: groups fuel size (bytes.drop size)

def wordsOf (size : Nat) (bigEnd : Bool) (bytes : List UInt8) : List Nat :=
  (groups bytes.length size bytes).map fun group =>
    (if bigEnd then group else group.reverse).foldl (fun word byte => word * 256 + byte.toNat) 0

/-- The digits of a word, as many as its bytes need. -/
def wordText (size : Nat) (bigEnd : Bool) (word : Nat) : String :=
  let bytes := (List.range size).map fun place => word / Nat.pow 256 place % 256
  let text (byte : Nat) : List Char := [Nat.digitChar (byte / 16), Nat.digitChar (byte % 16)]
  String.ofList ((if bigEnd then bytes.reverse else bytes).flatMap text)

/-- The largest number whose power is not above another one. -/
def rootBelow (power value : Nat) (bits : Nat) (found : Nat) : Nat :=
  match bits with
  | 0 => found
  | bits + 1 =>
    let more := found + Nat.pow 2 bits
    rootBelow power value bits (if Nat.pow more power ≤ value then more else found)

def primes (count : Nat) : List Nat :=
  ((List.range 500).filter fun n => 2 ≤ n && (List.range n).all fun d => d < 2 || n % d != 0).take count

/-- The first bits behind the point of roots of primes. -/
def fractions (power width count : Nat) : List Nat :=
  (primes count).map fun prime => rootBelow power (prime * Nat.pow 2 (width * power)) (width + 8) 0 % Nat.pow 2 width

namespace Md5

def turns : List (List Nat) := [[7, 12, 17, 22], [5, 9, 14, 20], [4, 11, 16, 23], [6, 10, 15, 21]]

/-- The whole part of a sine, scaled up. -/
def constant (round : Nat) : Nat := ((Float.sin (Float.ofNat (round + 1))).abs * 4294967296).toUInt64.toNat

def step (block : Array Nat) (state : Nat × Nat × Nat × Nat) (round : Nat) : Nat × Nat × Nat × Nat :=
  let (a, b, c, d) := state
  let limit := Nat.pow 2 32
  let (mixed, place) :=
    match round / 16 with
    | 0 => ((b &&& c) ||| (inverted 32 b &&& d), round)
    | 1 => ((d &&& b) ||| (inverted 32 d &&& c), 5 * round + 1)
    | 2 => (b ^^^ c ^^^ d, 3 * round + 5)
    | _ => (c ^^^ (b ||| inverted 32 d), 7 * round)
  let sum := (a + mixed + constant round + block.getD (place % 16) 0) % limit
  let count := ((turns.getD (round / 16) []).getD (round % 4) 0)
  (d, (b + turnLeft 32 count sum) % limit, b, c)

def sum (bytes : List UInt8) : String :=
  let start : Nat × Nat × Nat × Nat := (0x67452301, 0xefcdab89, 0x98badcfe, 0x10325476)
  let limit := Nat.pow 2 32
  let blocks := groups (bytes.length + 1) 64 (padded 64 8 false bytes)
  let (a, b, c, d) := blocks.foldl (fun (a, b, c, d) bytes =>
    let block := (wordsOf 4 false bytes).toArray
    let (a', b', c', d') := (List.range 64).foldl (step block) (a, b, c, d)
    ((a + a') % limit, (b + b') % limit, (c + c') % limit, (d + d') % limit)) start
  String.join ([a, b, c, d].map (wordText 4 false))

end Md5

namespace Sha1

def schedule (block : Array Nat) : Array Nat :=
  (List.range 64).foldl (fun (words : Array Nat) offset =>
    let earlier (back : Nat) : Nat := words.getD (offset + 16 - back) 0
    words.push (turnLeft 32 1 (earlier 3 ^^^ earlier 8 ^^^ earlier 14 ^^^ earlier 16))) block

def step (words : Array Nat) (state : List Nat) (round : Nat) : List Nat :=
  match state with
  | [a, b, c, d, e] =>
    let (mixed, constant) :=
      match round / 20 with
      | 0 => ((b &&& c) ||| (inverted 32 b &&& d), 0x5a827999)
      | 1 => (b ^^^ c ^^^ d, 0x6ed9eba1)
      | 2 => ((b &&& c) ||| (b &&& d) ||| (c &&& d), 0x8f1bbcdc)
      | _ => (b ^^^ c ^^^ d, 0xca62c1d6)
    [(turnLeft 32 5 a + mixed + e + constant + words.getD round 0) % Nat.pow 2 32, a, turnLeft 32 30 b, c, d]
  | state => state

def sum (bytes : List UInt8) : String :=
  let blocks := groups (bytes.length + 1) 64 (padded 64 8 true bytes)
  let state := blocks.foldl (fun state bytes =>
    let words := schedule (wordsOf 4 true bytes).toArray
    let after := (List.range 80).foldl (step words) state
    (state.zip after).map fun (a, b) => (a + b) % Nat.pow 2 32) [0x67452301, 0xefcdab89, 0x98badcfe, 0x10325476, 0xc3d2e1f0]
  String.join (state.map (wordText 4 true))

end Sha1

/-- A family of sums that differ in the width of their words. -/
structure Sha2 where
  width : Nat
  rounds : Nat
  /-- How far words are turned, and shifted, when the schedule is made. -/
  early : Nat × Nat × Nat
  late : Nat × Nat × Nat
  first : Nat × Nat × Nat
  fifth : Nat × Nat × Nat

namespace Sha2

def narrow : Sha2 := ⟨32, 64, (7, 18, 3), (17, 19, 10), (2, 13, 22), (6, 11, 25)⟩

def wide : Sha2 := ⟨64, 80, (1, 8, 7), (19, 61, 6), (28, 34, 39), (14, 18, 41)⟩

def shifted (sha : Sha2) (counts : Nat × Nat × Nat) (word : Nat) : Nat :=
  turnRight sha.width counts.1 word ^^^ turnRight sha.width counts.2.1 word ^^^ (word >>> counts.2.2)

def turned (sha : Sha2) (counts : Nat × Nat × Nat) (word : Nat) : Nat :=
  turnRight sha.width counts.1 word ^^^ turnRight sha.width counts.2.1 word ^^^ turnRight sha.width counts.2.2 word

def schedule (sha : Sha2) (block : Array Nat) : Array Nat :=
  (List.range (sha.rounds - 16)).foldl (fun (words : Array Nat) offset =>
    let earlier (back : Nat) : Nat := words.getD (offset + 16 - back) 0
    words.push ((earlier 16 + sha.shifted sha.early (earlier 15) + earlier 7 + sha.shifted sha.late (earlier 2)) % Nat.pow 2 sha.width)) block

def step (sha : Sha2) (words constants : Array Nat) (state : List Nat) (round : Nat) : List Nat :=
  let limit := Nat.pow 2 sha.width
  match state with
  | [a, b, c, d, e, f, g, h] =>
    let choice := (e &&& f) ^^^ (inverted sha.width e &&& g)
    let majority := (a &&& b) ^^^ (a &&& c) ^^^ (b &&& c)
    let first := h + sha.turned sha.fifth e + choice + constants.getD round 0 + words.getD round 0
    let second := sha.turned sha.first a + majority
    [(first + second) % limit, a, b, c, (d + first) % limit, e, f, g]
  | state => state

def sumFrom (sha : Sha2) (start : List Nat) (words : Nat) (bytes : List UInt8) : String :=
  let size := sha.width / 8
  let blocks := groups (bytes.length + 1) (16 * size) (padded (16 * size) (2 * size) true bytes)
  let constants := (fractions 3 sha.width sha.rounds).toArray
  let state := blocks.foldl (fun state bytes =>
    let words := sha.schedule (wordsOf size true bytes).toArray
    let after := (List.range sha.rounds).foldl (sha.step words constants) state
    (state.zip after).map fun (a, b) => (a + b) % Nat.pow 2 sha.width) start
  String.join ((state.take words).map (wordText size true))

def sum (sha : Sha2) : List UInt8 → String := sha.sumFrom (fractions 2 sha.width 8) 8

/-- A sum that is cut short begins with the roots of other primes. -/
def sum384 : List UInt8 → String := wide.sumFrom ((fractions 2 64 16).drop 8) 6

def sum224 : List UInt8 → String := narrow.sumFrom (((fractions 2 64 16).drop 8).map (· % Nat.pow 2 32)) 7

end Sha2

/-- The remainder of an input by a polynomial, with its size behind it. -/
def remainder (bytes : List UInt8) : Nat :=
  let shift (sum : Nat) (byte : Nat) : Nat :=
    (List.range 8).foldl (fun sum _ =>
      let sum := sum * 2
      if Nat.pow 2 32 ≤ sum then (sum - Nat.pow 2 32) ^^^ 0x04c11db7 else sum) (sum ^^^ (byte <<< 24))
  let rec sizeBytes (fuel size : Nat) : List Nat :=
    match fuel with
    | 0 => []
    | fuel + 1 => if size = 0 then [] else size % 256 :: sizeBytes fuel (size / 256)
  let sum := (bytes.map UInt8.toNat ++ sizeBytes 16 bytes.length).foldl shift 0
  Nat.pow 2 32 - 1 - sum

end Digest

/-- A sum that a program makes: the name of the program, the one that stands in its output, the size of the sum in digits. -/
structure Summing where
  tool : String
  kind : String
  digits : Nat
  sum : List UInt8 → String

/-- What became of the sums that a list gives. -/
structure SumTally where
  matching : Nat := 0
  different : Nat := 0
  unread : Nat := 0
  malformed : Nat := 0

namespace Summing

/-- The sum and the name in a line of a list, in either of two forms. -/
def listed? (summing : Summing) (line : String) : Option (String × String) :=
  let isSum (text : List Char) : Bool := text.length = summing.digits && text.all Ascii.isHexDigit
  let chars := line.toList
  let sum := chars.take summing.digits
  let start := (summing.kind ++ " (").toList
  let finish := chars.drop (chars.length - summing.digits)
  let between := (chars.drop start.length).take (chars.length - summing.digits - start.length)
  let ending := ") = ".toList
  if isSum sum then
    match chars.drop summing.digits with
    | ' ' :: ' ' :: name => some (String.ofList sum, String.ofList name)
    | ' ' :: '*' :: name => some (String.ofList sum, String.ofList name)
    | _ => none
  else if start.isPrefixOf chars && isSum finish && ending.isSuffixOf between then
    some (String.ofList finish, String.ofList (between.take (between.length - ending.length)))
  else none

/-- What is said at the end about sums that are not as they should be. -/
def warnings (tally : SumTally) : List String :=
  let some' (count : Nat) (one many : String) : List String :=
    if count = 0 then [] else if count = 1 then ["WARNING: 1 " ++ one] else [s!"WARNING: {count} {many}"]
  some' tally.malformed "line is improperly formatted" "lines are improperly formatted" ++
    some' tally.unread "listed file could not be read" "listed files could not be read" ++
    some' tally.different "computed checksum did NOT match" "computed checksums did NOT match"

/-- Looks after the sums of a list. -/
def checkLines (summing : Summing) (given : Given) (list : String) (number : Nat) (tally : SumTally) :
    List String → (SumTally → Program) → Program
  | [], next => next tally
  | line :: rest, next =>
    let again (tally : SumTally) : Program := checkLines summing given list (number + 1) tally rest next
    match summing.listed? line with
    | none =>
      let after := { tally with malformed := tally.malformed + 1 }
      if line.isEmpty || line.startsWith "#" then again tally
      else if given.has 'w' then
        complain summing.tool s!"{list}: {number}: improperly formatted {summing.kind} checksum line" fun _ => again after
      else again after
    | some (sum, name) =>
      contents summing.tool [name] fun read clean =>
        let say (isQuiet : Bool) (verdict : String) (tally : SumTally) : Program :=
          if isQuiet || given.has 'S' then again tally
          else writeAll summing.tool (ByteText.toBytes (name ++ ": " ++ verdict ++ "\n")) fun _ => again tally
        if !clean then say false "FAILED open or read" { tally with unread := tally.unread + 1 }
        else if summing.sum read.flatten = sum.map Char.toLower then
          say (given.has 'Q') "OK" { tally with matching := tally.matching + 1 }
        else say false "FAILED" { tally with different := tally.different + 1 }

def sayAll (tool : String) : List String → (Unit → Program) → Program
  | [], next => next ()
  | text :: rest, next => complain tool text fun _ => sayAll tool rest next

def checkLists (summing : Summing) (given : Given) : List String → Nat → Program
  | [], code => .exit code
  | path :: rest, code =>
    let list := if path = "-" then "'standard input'" else path
    contents summing.tool [path] fun read clean =>
      if !clean then checkLists summing given rest 1
      else
        summing.checkLines given list 1 {} (textLines read.flatten) fun tally =>
          if tally.matching + tally.different + tally.unread = 0 then
            complain summing.tool s!"{list}: no properly formatted checksum lines found" fun _ => checkLists summing given rest 1
          else
            let isFine := tally.different = 0 && tally.unread = 0 && (tally.malformed = 0 || !given.has 'T')
            sayAll summing.tool (if given.has 'S' then [] else warnings tally) fun _ =>
              checkLists summing given rest (if isFine then code else 1)

def showSums (summing : Summing) (given : Given) : List String → Nat → Program
  | [], code => .exit code
  | path :: rest, code =>
    contents summing.tool [path] fun read clean =>
      if clean then
        let sum := summing.sum read.flatten
        let text :=
          if given.has 'G' then summing.kind ++ " (" ++ path ++ ") = " ++ sum
          else sum ++ (if given.last? "bt" = some 'b' then " *" else "  ") ++ path
        writeAll summing.tool (ByteText.toBytes (text ++ (if given.has 'z' then "\x00" else "\n"))) fun _ =>
          showSums summing given rest code
      else showSums summing given rest 1

/-- A program that shows the sum of each of its inputs, or checks those that a list gives. -/
def asTool (summing : Summing) : Tool :=
  withOptions
    { tool := summing.tool, letters := "bctwzSQGT"
      names := [("binary", 'b'), ("check", 'c'), ("text", 't'), ("warn", 'w'), ("zero", 'z'), ("status", 'S'), ("quiet", 'Q'),
        ("tag", 'G'), ("strict", 'T')] } fun given _ =>
    let paths := if given.operands.isEmpty then ["-"] else given.operands
    if given.has 'c' then summing.checkLists given paths 0 else summing.showSums given paths 0

end Summing

def md5sum : Tool := Summing.asTool ⟨"md5sum", "MD5", 32, Digest.Md5.sum⟩

def sha1sum : Tool := Summing.asTool ⟨"sha1sum", "SHA1", 40, Digest.Sha1.sum⟩

def sha224sum : Tool := Summing.asTool ⟨"sha224sum", "SHA224", 56, Digest.Sha2.sum224⟩

def sha256sum : Tool := Summing.asTool ⟨"sha256sum", "SHA256", 64, Digest.Sha2.narrow.sum⟩

def sha384sum : Tool := Summing.asTool ⟨"sha384sum", "SHA384", 96, Digest.Sha2.sum384⟩

def sha512sum : Tool := Summing.asTool ⟨"sha512sum", "SHA512", 128, Digest.Sha2.wide.sum⟩

def cksum : Tool := withOptions { tool := "cksum", letters := "a:" } fun given _ =>
  let rec go : List String → Nat → Program
    | [], code => .exit code
    | path :: rest, code =>
      contents "cksum" [path] fun read clean =>
        if clean then
          let bytes := read.flatten
          let name := if given.operands.isEmpty then "" else " " ++ path
          writeAll "cksum" (ByteText.toBytes (s!"{Digest.remainder bytes} {bytes.length}" ++ name ++ "\n")) fun _ => go rest code
        else go rest 1
  go (if given.operands.isEmpty then ["-"] else given.operands) 0

end BuildWatch.Toolbox
