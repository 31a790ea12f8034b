import BuildWatch.Toolbox.Options

/-! Programs for lines in order: they are sorted, compared with their neighbours, and compared with those of another
file. -/

namespace BuildWatch.Toolbox

open Machine

/-- How two texts are compared. -/
structure TextOrder where
  kind : Char := ' '
  ignoresCase : Bool := false
  /-- Only blanks, letters and digits count. -/
  onlyWords : Bool := false
  onlyPrinted : Bool := false
  reversed : Bool := false
  skipsBlanks : Bool := false

/-- A part of a line, from a character of a field up to a character of another one; zero stands for the end of it. -/
structure SortKey where
  firstField : Nat := 0
  firstChar : Nat := 0
  lastField : Option Nat := none
  lastChar : Nat := 0
  skipsBlanksAtEnd : Bool := false
  order : TextOrder := {}

namespace SortKey

def isBlank (c : Char) : Bool := c = ' ' || c = '\t' || c = '\n'

/-- Goes over so many fields. -/
def skipFields (separator : Option Char) (overLast : Bool) : Nat → List Char → List Char
  | 0, text => text
  | count + 1, text =>
    match separator with
    | none => skipFields separator overLast count ((text.dropWhile isBlank).dropWhile (!isBlank ·))
    | some c =>
      let rest := text.dropWhile (· != c)
      skipFields separator overLast count (if 0 < count || overLast then rest.drop 1 else rest)

/-- The part of a line that a key is about. -/
def take (separator : Option Char) (key : SortKey) (line : List Char) : List Char :=
  let start := skipFields separator true key.firstField line
  let start := (if key.order.skipsBlanks then start.dropWhile isBlank else start).drop key.firstChar
  match key.lastField with
  | none => start
  | some field =>
    let rest :=
      if key.lastChar = 0 then skipFields separator false (field + 1) line
      else
        let inside := skipFields separator true field line
        (if key.skipsBlanksAtEnd then inside.dropWhile isBlank else inside).drop key.lastChar
    start.take (start.length - rest.length)

end SortKey

/-- A number at the front of a text, as its sign, its whole part and its decimal places. -/
def leadingNumber (text : List Char) : Bool × Nat × List Char :=
  let body := text.dropWhile SortKey.isBlank
  let negative := body.head? == some '-'
  let body := if negative then body.drop 1 else body
  let whole := body.takeWhile Char.isDigit
  let places :=
    match body.drop whole.length with
    | '.' :: rest => ((rest.takeWhile Char.isDigit).reverse.dropWhile (· = '0')).reverse
    | _ => []
  (negative && (whole ++ places).any (· != '0'), Ascii.number 10 whole, places)

def orderOf (a b : Nat) : Ordering := compare a b

def orderOfTexts (a b : List Char) : Ordering :=
  match a, b with
  | [], [] => .eq
  | [], _ => .lt
  | _, [] => .gt
  | x :: xs, y :: ys => if x = y then orderOfTexts xs ys else compare x.toNat y.toNat

def orderOfNumbers (a b : List Char) : Ordering :=
  let (negativeA, wholeA, placesA) := leadingNumber a
  let (negativeB, wholeB, placesB) := leadingNumber b
  match negativeA, negativeB with
  | true, false => .lt
  | false, true => .gt
  | negative, _ =>
    let magnitude := (orderOf wholeA wholeB).then (orderOfTexts placesA placesB)
    if negative then magnitude.swap else magnitude

/-- How large the unit behind a number is. -/
def unitOf (text : List Char) : Nat :=
  let body := (text.dropWhile SortKey.isBlank).dropWhile fun c => c = '-' || c.isDigit || c = '.'
  match body with
  | c :: _ => ("KMGTPEZY".toList.findIdx? (· == c.toUpper)).elim 0 (· + 1)
  | [] => 0

def orderOfSizes (a b : List Char) : Ordering :=
  let (negativeA, wholeA, placesA) := leadingNumber a
  let (negativeB, _, _) := leadingNumber b
  match negativeA, negativeB with
  | true, false => .lt
  | false, true => .gt
  | negative, _ =>
    let isZero := wholeA = 0 && placesA.isEmpty
    let units := orderOf (if isZero then 0 else unitOf a) (unitOf b)
    let units := if negative then units.swap else units
    units.then (orderOfNumbers a b)

def months : List String := ["JAN", "FEB", "MAR", "APR", "MAY", "JUN", "JUL", "AUG", "SEP", "OCT", "NOV", "DEC"]

def monthOf (text : List Char) : Nat :=
  let name := (String.ofList ((text.dropWhile SortKey.isBlank).take 3)).toUpper
  (months.findIdx? (· == name)).elim 0 (· + 1)

/-- Runs of digits are compared as numbers; a tilde comes before everything, even the end. -/
def orderOfVersions (fuel : Nat) (a b : List Char) : Ordering :=
  match fuel with
  | 0 => .eq
  | fuel + 1 =>
    let weight (c : Option Char) : Int :=
      match c with
      | none => 0
      | some c => if c.isDigit then 0 else if c.isAlpha then c.toNat else if c = '~' then -1 else c.toNat + 256
    let insideA := (a.head?).any (!·.isDigit)
    let insideB := (b.head?).any (!·.isDigit)
    if a.isEmpty && b.isEmpty then .eq
    else if insideA || insideB then
      let order := compare (weight a.head?) (weight b.head?)
      if order != .eq then order
      else orderOfVersions fuel (if insideA then a.tail else a) (if insideB then b.tail else b)
    else
      let order := orderOf (Ascii.number 10 (a.takeWhile Char.isDigit)) (Ascii.number 10 (b.takeWhile Char.isDigit))
      if order != .eq then order else orderOfVersions fuel (a.dropWhile Char.isDigit) (b.dropWhile Char.isDigit)

namespace TextOrder

def isPlain (order : TextOrder) : Bool :=
  order.kind = ' ' && !order.ignoresCase && !order.onlyWords && !order.onlyPrinted && !order.reversed && !order.skipsBlanks

def withLetter? (order : TextOrder) (letter : Char) : Option TextOrder :=
  match letter with
  | 'b' => some { order with skipsBlanks := true }
  | 'd' => some { order with onlyWords := true }
  | 'f' => some { order with ignoresCase := true }
  | 'i' => some { order with onlyPrinted := true }
  | 'r' => some { order with reversed := true }
  | letter => if "gnhMV".toList.contains letter then some { order with kind := letter } else none

def kept (order : TextOrder) (text : List Char) : List Char :=
  let text := if order.onlyWords then text.filter fun c => SortKey.isBlank c || c.isAlphanum else text
  let text := if order.onlyPrinted then text.filter fun c => 32 ≤ c.toNat && c.toNat < 127 else text
  if order.ignoresCase then text.map Char.toUpper else text

def compare (order : TextOrder) (a b : List Char) : Ordering :=
  let result :=
    match order.kind with
    | 'n' => orderOfNumbers a b
    | 'g' => orderOfNumbers a b
    | 'h' => orderOfSizes a b
    | 'M' => orderOf (monthOf a) (monthOf b)
    | 'V' => orderOfVersions (2 * (a.length + b.length) + 2) a b
    | _ => orderOfTexts (order.kept a) (order.kept b)
  if order.reversed then result.swap else result

end TextOrder

/-- The fields and letters of a key: `2.3nr,4`. -/
def keyOf? (text : String) : Option SortKey := do
  let (start, rest) ← position text.toList
  let order ← rest.1.foldlM TextOrder.withLetter? ({} : TextOrder)
  if start.1 = 0 then none
  let key : SortKey := { firstField := start.1 - 1, firstChar := start.2 - 1, order }
  match rest.2 with
  | [] => some key
  | ',' :: behind => do
    let (last, rest) ← position behind
    let order ← (rest.1.filter (· != 'b')).foldlM TextOrder.withLetter? key.order
    if last.1 = 0 || !rest.2.isEmpty then none
    some { key with lastField := some (last.1 - 1), lastChar := last.2, skipsBlanksAtEnd := rest.1.contains 'b', order }
  | _ => none
where
  position (text : List Char) : Option ((Nat × Nat) × (List Char × List Char)) :=
    let field := text.takeWhile Char.isDigit
    let rest := text.drop field.length
    if field.isEmpty then none
    else
      let (offset, rest) :=
        match rest with
        | '.' :: behind => (Ascii.number 10 (behind.takeWhile Char.isDigit), behind.dropWhile Char.isDigit)
        | rest => (0, rest)
      let letters := rest.takeWhile Char.isAlpha
      some ((Ascii.number 10 field, offset), (letters, rest.drop letters.length))

def sortTable : OptionTable :=
  { tool := "sort", letters := "bcCdfghik:mMno:rRsS:t:T:uVz", failure := 2,
    names := [("ignore-leading-blanks", 'b'), ("check", 'c'), ("dictionary-order", 'd'), ("ignore-case", 'f'),
      ("general-numeric-sort", 'g'), ("human-numeric-sort", 'h'), ("ignore-nonprinting", 'i'), ("key", 'k'), ("merge", 'm'),
      ("month-sort", 'M'), ("numeric-sort", 'n'), ("output", 'o'), ("reverse", 'r'), ("stable", 's'), ("buffer-size", 'S'),
      ("field-separator", 't'), ("unique", 'u'), ("version-sort", 'V'), ("zero-terminated", 'z')] }

/-- An order of lines: by keys, and in the end by all of them. -/
structure LineOrder where
  separator : Option Char := none
  keys : List SortKey := []
  reversed : Bool := false
  /-- Lines with equal keys count as equal. -/
  byKeys : Bool := false

namespace LineOrder

def compare (order : LineOrder) (a b : List Char) : Ordering :=
  let byKeys := order.keys.foldl (fun (result : Ordering) key =>
    result.then (key.order.compare (key.take order.separator a) (key.take order.separator b))) .eq
  if byKeys != .eq || (order.byKeys && !order.keys.isEmpty) then byKeys
  else
    let whole := orderOfTexts a b
    if order.reversed then whole.swap else whole

def ofGiven (given : Given) : Except String LineOrder := do
  let whole := given.options.foldl (fun (order : TextOrder) (letter, _) => (order.withLetter? letter).getD order) {}
  let keys ← (given.values 'k').mapM fun text =>
    match keyOf? text with
    | some key => Except.ok (if key.order.isPlain then { key with order := whole } else key)
    | none => .error s!"invalid number at field start: invalid count at start of '{text}'"
  let separator ← match given.value? 't' with
    | none => Except.ok none
    | some "" => .error "empty tab"
    | some "\\0" => .ok (some '\x00')
    | some text => if text.length = 1 then .ok text.toList.head? else .error s!"multi-character tab '{text}'"
  let keys := if keys.isEmpty && !{ whole with reversed := false }.isPlain then [{ order := whole }] else keys
  return { separator, keys, reversed := whole.reversed, byKeys := given.has 'u' || given.has 's' }

end LineOrder

def sortWording (path : String) (fault : FileError) : String :=
  if fault = .isDirectory then s!"read failed: {path}: {fault.reason}" else s!"cannot read: {path}: {fault.reason}"

/-- The first line that stands behind one it should not stand behind, and its number. -/
def disorder? (order : LineOrder) (strictly : Bool) (number : Nat) : List (List Char) → Option (Nat × List Char)
  | a :: b :: rest =>
    let result := order.compare a b
    if result == .gt || (strictly && result == .eq) then some (number + 1, b) else disorder? order strictly (number + 1) (b :: rest)
  | _ => none

def uniqueBy (same : α → α → Bool) : List α → List α
  | a :: b :: rest => if same a b then uniqueBy same (a :: rest) else a :: uniqueBy same (b :: rest)
  | rest => rest
  termination_by list => list.length

def sortLines : Tool := withOptions sortTable fun given _ =>
  match LineOrder.ofGiven given with
  | .error fault => refuseWith 2 "sort" fault
  | .ok order =>
    contentsOr sortWording "sort" given.operands fun read clean =>
      if !clean then .exit 2
      else
        let ending : UInt8 := if given.has 'z' then 0 else 10
        let split (bytes : List UInt8) : List (List Char) :=
          let text := (ByteText.ofBytes bytes).splitOn (String.singleton (Char.ofNat ending.toNat))
          ((if text.getLast? == some "" then text.dropLast else text)).map String.toList
        let lines := read.flatMap fun (_, bytes) => split bytes
        if given.has 'c' || given.has 'C' then
          match disorder? order (given.has 'u') 1 lines with
          | none => .exit 0
          | some (number, line) =>
            if given.has 'C' then .exit 1
            else
              let name := (given.operands.head?).getD "-"
              refuse "sort" s!"{name}:{number}: disorder: {String.ofList line}"
        else
          let sorted := lines.mergeSort fun a b => order.compare a b != .gt
          let sorted := if given.has 'u' then uniqueBy (fun a b => order.compare a b == .eq) sorted else sorted
          let bytes := sorted.flatMap fun line => ByteText.toBytes (String.ofList line) ++ [ending]
          match given.value? 'o' with
          | none => writeAndExit "sort" bytes 0
          | some path =>
            .call (.openFile inputDescriptor ⟨path⟩ .write) fun
              | .failed fault => refuseWith 2 "sort" s!"open failed: {path}: {fault.reason}"
              | _ => Program.perform (.write inputDescriptor bytes) fun _ => .exit 0

def uniqTable : OptionTable :=
  { tool := "uniq", letters := "cdDf:is:uw:z",
    names := [("count", 'c'), ("repeated", 'd'), ("all-repeated", 'D'), ("skip-fields", 'f'), ("ignore-case", 'i'),
      ("skip-chars", 's'), ("unique", 'u'), ("check-chars", 'w'), ("zero-terminated", 'z')] }

/-- The part of a line that is compared with its neighbours. -/
def comparedPart (given : Given) (line : String) : List Char :=
  let count (letter : Char) : Nat := ((given.value? letter).bind decimal?).getD 0
  let text := SortKey.skipFields none true (count 'f') line.toList
  let text := text.drop (count 's')
  let text := if given.has 'w' then text.take (count 'w') else text
  if given.has 'i' then text.map Char.toLower else text

def uniq : Tool := withOptions uniqTable fun given _ =>
  match given.operands with
  | _ :: _ :: extra :: _ => extraOperand "uniq" extra
  | operands =>
    contents "uniq" (operands.take 1) fun read clean =>
      let lines := (read.flatMap textLines).map fun line => (comparedPart given line, line)
      let groups := lines.splitBy fun a b => a.1 == b.1
      let kept := groups.filter fun group =>
        (!(given.has 'd' || given.has 'D') || 1 < group.length) && (!given.has 'u' || group.length = 1)
      let shown (group : List (List Char × String)) : String :=
        if given.has 'D' then String.join (group.map fun (_, line) => line ++ "\n")
        else
          let front := if given.has 'c' then padLeft 7 (toString group.length) ++ " " else ""
          front ++ ((group.head?).map (·.2)).getD "" ++ "\n"
      let text := String.join (kept.map shown)
      let code := if clean then 0 else 1
      match operands with
      | [_, target] =>
        .call (.openFile inputDescriptor ⟨target⟩ .write) fun
          | .failed fault => refuse "uniq" s!"{target}: {fault.reason}"
          | _ => Program.perform (.write inputDescriptor (ByteText.toBytes text)) fun _ => .exit code
      | _ => if clean then writeText "uniq" text code else .exit code

def commTable : OptionTable :=
  { tool := "comm", letters := "123zo:", names := [("output-delimiter", 'o'), ("zero-terminated", 'z')] }

/-- The lines of both files in one order, each with the column it belongs to. -/
def commColumns (fuel : Nat) (a b : List (List Char)) : List (Nat × List Char) :=
  match fuel, a, b with
  | 0, _, _ => []
  | _, [], b => b.map fun line => (1, line)
  | _, a, [] => a.map fun line => (0, line)
  | fuel + 1, x :: xs, y :: ys =>
    match orderOfTexts x y with
    | .eq => (2, x) :: commColumns fuel xs ys
    | .lt => (0, x) :: commColumns fuel xs (y :: ys)
    | .gt => (1, y) :: commColumns fuel (x :: xs) ys

def comm : Tool := withOptions commTable fun given _ =>
  match given.operands with
  | [] => missingOperand "comm"
  | [one] => misuse 1 "comm" s!"missing operand after '{one}'"
  | first :: second :: [] =>
    oneContent "comm" 1 false first fun first =>
      oneContent "comm" 1 false second fun second =>
        let lines := [first, second].map fun bytes => (textLines bytes).map String.toList
        let columns := commColumns (lines.flatten.length + 1) (lines.headD []) ((lines[1]?).getD [])
        let delimiter := (given.value? 'o').getD "\t"
        let isShown (column : Nat) : Bool := !given.has (Char.ofNat (column + '1'.toNat))
        let line (entry : Nat × List Char) : String :=
          let before := (List.range entry.1).filter isShown
          String.join (before.map fun _ => delimiter) ++ String.ofList entry.2 ++ "\n"
        let text := String.join ((columns.filter fun (column, _) => isShown column).map line)
        let faults := (lines.zipIdx 1).filterMap fun (lines, number) =>
          (disorder? {} false 1 lines).map fun _ => s!"comm: file {number} is not in sorted order\n"
        let last := if faults.isEmpty then "" else "comm: input is not in sorted order\n"
        writeAll "comm" (ByteText.toBytes text) fun _ =>
          Program.writeText 2 (String.join faults ++ last) fun _ => .exit (if faults.isEmpty then 0 else 1)
  | _ :: _ :: extra :: _ => extraOperand "comm" extra

end BuildWatch.Toolbox
