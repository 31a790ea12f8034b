import BuildWatch.Toolbox.Options

/-! Programs that look at characters one by one: they are replaced, deleted, squeezed, folded into lines, or turned
round. -/

namespace BuildWatch.Toolbox

open Machine

namespace CharacterList

/-- A character of a list, and whether a backslash has taken its special meaning. -/
abbrev Spelled : Type := Char × Bool

def escape : Char → Char
  | 'a' => '\x07'
  | 'b' => '\x08'
  | 'f' => '\x0c'
  | 'n' => '\n'
  | 'r' => '\r'
  | 't' => '\t'
  | 'v' => '\x0b'
  | c => c

/-- Up to three octal digits, as long as they make a byte. -/
def octalDigits (text : List Char) : List Char :=
  let digits := (text.take 3).takeWhile Ascii.isOctal
  if 255 < Ascii.number 8 digits then digits.take 2 else digits

def spell (fuel : Nat) (text : List Char) : List Spelled :=
  match fuel, text with
  | 0, _ => []
  | _, [] => []
  | fuel + 1, '\\' :: c :: rest =>
    if Ascii.isOctal c then
      let digits := octalDigits (c :: rest)
      (Char.ofNat (Ascii.number 8 digits), true) :: spell fuel ((c :: rest).drop digits.length)
    else (escape c, true) :: spell fuel rest
  | fuel + 1, c :: rest => (c, false) :: spell fuel rest

inductive Item where
  | char (c : Char)
  | range (first last : Char)
  | named (name : String)
  /-- A character so many times; as often as needed without a number. -/
  | several (c : Char) (count : Option Nat)
  deriving DecidableEq, Inhabited

/-- What stands between brackets, up to its closing sign. -/
def bracketed? (sign : Char) (text : List Spelled) : Option (List Char × List Spelled) :=
  go [] text
where
  go (held : List Char) : List Spelled → Option (List Char × List Spelled)
    | (a, false) :: (']', false) :: rest => if a = sign then some (held.reverse, rest) else go (a :: held) ((']', false) :: rest)
    | (a, _) :: rest => go (a :: held) rest
    | [] => none

def several? (text : List Spelled) : Option (Char × Option Nat × List Spelled) :=
  match text with
  | (c, _) :: ('*', false) :: rest =>
    let digits := (rest.takeWhile fun (c, escaped) => c.isDigit && !escaped).map (·.1)
    match rest.drop digits.length with
    | (']', false) :: behind =>
      let base := if digits.head? == some '0' then 8 else 10
      let count := Ascii.number base digits
      some (c, if count = 0 then none else some count, behind)
    | _ => none
  | _ => none

def items (fuel : Nat) (text : List Spelled) : Except String (List Item) :=
  match fuel, text with
  | 0, _ => .ok []
  | _, [] => .ok []
  | fuel + 1, (c, escaped) :: rest => do
    let inBrackets : Option (Except String (Item × List Spelled)) :=
      if c = '[' && !escaped then
        match rest with
        | (':', false) :: inner =>
          (bracketed? ':' inner).map fun (name, behind) =>
            let name := String.ofList name
            if (Ascii.inClass? name 'a').isSome then .ok (.named name, behind)
            else .error s!"invalid character class '{name}'"
        | ('=', false) :: inner =>
          (bracketed? '=' inner).map fun (name, behind) =>
            match name with
            | [c] => .ok (.char c, behind)
            | name => .error s!"{String.ofList name}: equivalence class operand must be a single character"
        | rest => (several? rest).map fun (c, count, behind) => .ok (.several c count, behind)
      else none
    match inBrackets, rest with
    | some read, _ =>
      let (item, behind) ← read
      return item :: (← items fuel behind)
    | none, ('-', false) :: (last, _) :: behind =>
      if last < c then
        .error ("range-endpoints of '" ++ String.ofList [c, '-', last] ++ "' are in reverse collating sequence order")
      else return .range c last :: (← items fuel behind)
    | none, rest => return .char c :: (← items fuel rest)

def read (text : String) : Except String (List Item) :=
  let spelled := spell (text.length + 1) text.toList
  items (spelled.length + 1) spelled

def allBytes : List Char := (List.range 256).map Char.ofNat

/-- The characters that an item stands for. -/
def Item.chars (needed : Nat) : Item → List Char
  | .char c => [c]
  | .range first last => (List.range (last.toNat - first.toNat + 1)).map fun offset => Char.ofNat (first.toNat + offset)
  | .named name => allBytes.filter fun c => (Ascii.inClass? name c).getD false
  | .several c count => List.replicate (count.getD needed) c

/-- All the characters of a list. One item may fill it up to a length. -/
def chars (length : Nat) (items : List Item) : List Char :=
  let fixed := (items.flatMap (Item.chars 0)).length
  items.flatMap (Item.chars (length - fixed))

end CharacterList

def trTable : OptionTable :=
  { tool := "tr", letters := "cCdst", inOrder := true,
    names := [("complement", 'c'), ("delete", 'd'), ("squeeze-repeats", 's'), ("truncate-set1", 't')] }

/-- What becomes of each byte, and of which bytes only the first of several is kept. -/
structure Exchange where
  change : Array (Option Char)
  squeezed : Array Bool

namespace Exchange

def step (exchange : Exchange) (last : Option Char) : List Char → List Char × Option Char
  | [] => ([], last)
  | c :: rest =>
    match (exchange.change[c.toNat]?).getD (some c) with
    | none => step exchange last rest
    | some c =>
      if last == some c && (exchange.squeezed[c.toNat]?).getD false then step exchange last rest
      else
        let (text, last) := step exchange (some c) rest
        (c :: text, last)

/-- A table over all bytes. -/
def table (value : Char → α) : Array α := (CharacterList.allBytes.map value).toArray

/-- What two lists say together. -/
def ofLists (given : Given) (first second : List CharacterList.Item) : Except String Exchange :=
  let own := CharacterList.chars 0 first
  let domain := if given.has 'c' || given.has 'C' then CharacterList.allBytes.filter (!own.contains ·) else own
  let exchanges := !given.has 'd' && 1 < given.operands.length
  let domain :=
    if exchanges && given.has 't' then domain.take (CharacterList.chars 0 second).length else domain
  let target := CharacterList.chars domain.length second
  let squeezedList := if !given.has 's' then [] else if given.operands.length = 1 then domain else target
  let squeezed := table fun c => squeezedList.contains c
  if given.has 'd' then .ok { change := table fun c => if domain.contains c then none else some c, squeezed }
  else if !exchanges then .ok { change := table some, squeezed }
  else if second.any (fun item => item matches .named _ && item != .named "upper" && item != .named "lower") then
    .error "when translating, the only character classes that may appear in\nstring2 are 'upper' and 'lower'"
  else if target.isEmpty && !given.has 't' then .error "when not truncating set1, string2 must be non-empty"
  else
    let pairs := domain.zip (target ++ List.replicate (domain.length - target.length) (target.getLast?.getD ' '))
    let change := pairs.foldl (fun (change : Array (Option Char)) (c, d) => change.setIfInBounds c.toNat (some d)) (table some)
    .ok { change, squeezed }

end Exchange

def exchangeInput (exchange : Exchange) (fuel : Nat) (last : Option Char) : Program :=
  match fuel with
  | 0 => .exit 1
  | fuel + 1 =>
    .call (.read 0 65536) fun
      | .bytes (byte :: more) =>
        let (text, last) := exchange.step last (ByteText.ofBytes (byte :: more)).toList
        writeAll "tr" (ByteText.toBytes (String.ofList text)) fun written =>
          if written then exchangeInput exchange fuel last else .exit 1
      | _ => .exit 0

def tr : Tool := withOptions trTable fun given _ =>
  let needs := if given.has 'd' == given.has 's' then 2 else 1
  let most := if given.has 'd' && !given.has 's' then 1 else 2
  match given.operands with
  | [] => missingOperand "tr"
  | first :: rest =>
    if given.operands.length < needs then
      let remark :=
        if given.has 'd' then "Two strings must be given when both deleting and squeezing repeats."
        else "Two strings must be given when translating."
      misuse 1 "tr" s!"missing operand after '{first}'\n{remark}"
    else if most < given.operands.length then
      let extra := (given.operands[most]?).getD ""
      let remark := if given.operands.length = 2 then "\nOnly one string may be given when deleting without squeezing repeats." else ""
      misuse 1 "tr" s!"extra operand '{extra}'{remark}"
    else
      let read : Except String Exchange := do
        let first ← CharacterList.read first
        let second ← CharacterList.read (rest.headD "")
        Exchange.ofLists given first second
      match read with
      | .error fault => refuse "tr" fault
      | .ok exchange => exchangeInput exchange Program.rounds none

def rev : Tool := withOptions { tool := "rev", letters := "0", names := [("zero", '0')] } fun given _ =>
  contentsOr (fun path fault => s!"cannot open {path}: {fault.reason}") "rev" given.operands fun read clean =>
    let turned (line : List UInt8) : List UInt8 :=
      let text := dropLineFeed line
      text.reverse ++ line.drop text.length
    writeAndExit "rev" ((read.flatMap fun (_, bytes) => linesOf bytes).flatMap turned) (if clean then 0 else 1)

def tac : Tool := withOptions { tool := "tac", letters := "brs:" } fun given _ =>
  let wording (path : String) (fault : FileError) : String :=
    if fault = .isDirectory then s!"{path}: read error: {fault.reason}"
    else s!"failed to open '{path}' for reading: {fault.reason}"
  contentsOr wording "tac" given.operands fun read clean =>
    writeAndExit "tac" (read.flatMap fun (_, bytes) => (linesOf bytes).reverse.flatten) (if clean then 0 else 1)

def foldTable : OptionTable :=
  { tool := "fold", letters := "bsw:", names := [("bytes", 'b'), ("spaces", 's'), ("width", 'w')] }

/-- The column behind a character. -/
def columnBehind (byBytes : Bool) (column : Nat) (c : Char) : Nat :=
  if byBytes then column + 1
  else if c = '\t' then column + (8 - column % 8)
  else if c = '\x08' then column - 1
  else if c = '\r' then 0
  else column + 1

/-- Breaks a line where it would get too wide; perhaps only behind blanks. -/
def foldLine (byBytes atBlanks : Bool) (width : Nat) (fuel : Nat) (text : List Char) : List (List Char) :=
  match fuel with
  | 0 => [text]
  | fuel + 1 =>
    let count := fitting 0 0 text
    if text.length ≤ count then [text]
    else
      let front := text.take count
      let blanks := (front.reverse.dropWhile fun c => c != ' ' && c != '\t').length
      let count := if atBlanks && 0 < blanks then blanks else max count 1
      text.take count :: foldLine byBytes atBlanks width fuel (text.drop count)
where
  fitting (count column : Nat) : List Char → Nat
    | [] => count
    | c :: rest =>
      let column := columnBehind byBytes column c
      if width < column && 0 < count then count else fitting (count + 1) column rest

def fold : Tool := fun arguments =>
  withOptions foldTable (fun given _ =>
    let text := (given.value? 'w').getD "80"
    match decimal? text with
    | none => refuse "fold" s!"invalid number of columns: '{text}'"
    | some width =>
      contents "fold" given.operands fun read clean =>
        let line (bytes : List UInt8) : List Char :=
          let text := (ByteText.ofBytes (dropLineFeed bytes)).toList
          let pieces := foldLine (given.has 'b') (given.has 's') width (text.length + 1) text
          ['\n'].intercalate pieces ++ (if bytes.getLast? == some 10 then ['\n'] else [])
        writeText "fold" (String.ofList ((read.flatMap linesOf).flatMap line)) (if clean then 0 else 1))
    (match withCount arguments with
      | some arguments => arguments
      | none => arguments)
where
  withCount : List String → Option (List String)
    | argument :: rest =>
      match argument.toList with
      | '-' :: digit :: more => if (digit :: more).all Char.isDigit then some ("-w" :: String.ofList (digit :: more) :: rest) else none
      | _ => none
    | [] => none

/-- The column of the next stop. Stops that are given one by one are followed by single blanks. -/
def nextStop (stops : List Nat) (column : Nat) : Nat :=
  match stops with
  | [every] => if every = 0 then column + 1 else column + (every - column % every)
  | stops => (stops.find? (column < ·)).getD (column + 1)

def stopsOf (text : String) : List Nat := ((text.map fun c => if c = ' ' then ',' else c).splitOn ",").filterMap decimal?

def expandTable : OptionTable := { tool := "expand", letters := "it:", names := [("initial", 'i'), ("tabs", 't')] }

def expand : Tool := withOptions expandTable fun given _ =>
  let stops := stopsOf ((given.value? 't').getD "8")
  let rec go (column : Nat) (leading : Bool) : List Char → List Char
    | [] => []
    | '\n' :: rest => '\n' :: go 0 true rest
    | '\t' :: rest =>
      if leading || !given.has 'i' then
        let next := nextStop stops column
        List.replicate (next - column) ' ' ++ go next leading rest
      else '\t' :: go (nextStop stops column) leading rest
    | c :: rest => c :: go (if c = '\x08' then column - 1 else column + 1) (leading && c = ' ') rest
  contents "expand" given.operands fun read clean =>
    writeText "expand" (String.ofList (go 0 true (ByteText.ofBytes read.flatten).toList)) (if clean then 0 else 1)

def unexpandTable : OptionTable :=
  { tool := "unexpand", letters := "at:", names := [("all", 'a'), ("first-only", 'f'), ("tabs", 't')] }

/-- Turns blanks that end at a stop into tabs. -/
def unexpand : Tool := withOptions unexpandTable fun given _ =>
  let stops := stopsOf ((given.value? 't').getD "8")
  let all := given.has 'a' || given.has 't'
  let blanks (start column : Nat) : List Char := List.replicate (column - start) ' '
  let rec go (start column : Nat) (pending : List Char) (leading : Bool) : List Char → List Char
    | [] => pending ++ blanks start column
    | '\n' :: rest => pending ++ blanks start column ++ '\n' :: go 0 0 [] true rest
    | c :: rest =>
      if (c = ' ' || c = '\t') && (leading || all) then
        let next := if c = '\t' then nextStop stops column else column + 1
        if next = nextStop stops column && (c = '\t' || start + 1 < next || !leading && 1 < next - start) then
          go next next (pending ++ ['\t']) leading rest
        else go start next pending leading rest
      else pending ++ blanks start column ++ c :: go (column + 1) (column + 1) [] false rest
  contents "unexpand" given.operands fun read clean =>
    writeText "unexpand" (String.ofList (go 0 0 [] true (ByteText.ofBytes read.flatten).toList)) (if clean then 0 else 1)

end BuildWatch.Toolbox
