import BuildWatch.Text.Regex

/-! The two notations of regular expressions: in the basic one braces and parentheses are special behind a
backslash, in the extended one without it. -/

namespace BuildWatch

/-- Why a text is no regular expression. -/
inductive RegexFault where
  | unmatchedBracket
  /-- A bracket stands at the very end. -/
  | lastBracket
  | unmatchedOpen
  | unmatchedClose
  | unmatchedBrace
  | badInterval
  | nothingBefore
  | badReference
  | trailingBackslash
  | badRange
  | badClassName
  | tooBig
  /-- A class of characters stands where only a set can. -/
  | bareClass
  deriving DecidableEq, Inhabited

namespace RegexFault

def message : RegexFault → String
  | unmatchedBracket => "Unmatched [, [^, [:, [., or [="
  | lastBracket => "Invalid regular expression"
  | unmatchedOpen => "Unmatched ( or \\("
  | unmatchedClose => "Unmatched ) or \\)"
  | unmatchedBrace => "Unmatched \\\x7b"
  | badInterval => "Invalid content of \\\x7b\\\x7d"
  | nothingBefore => "Invalid preceding regular expression"
  | badReference => "Invalid back reference"
  | trailingBackslash => "Trailing backslash"
  | badRange => "Invalid range end"
  | badClassName => "Invalid character class name"
  | tooBig => "Regular expression too big"
  | bareClass => "character class syntax is [[:space:]], not [:space:]"

end RegexFault

/-- How expressions are written. -/
structure RegexStyle where
  extended : Bool := false
  /-- A repetition has to have something before it. -/
  strict : Bool := false
  /-- A closing parenthesis without an opening one stands for itself. -/
  plainClosing : Bool := false
  /-- A backslash is special in a set. -/
  escapesInSets : Bool := false

namespace RegexStyle

abbrev Result (α : Type) : Type := Except RegexFault (α × List Char)

/-- The name of a class or a single character, behind the bracket that opens it. -/
def readNamed (text : List Char) : Option (Result CharRange) :=
  match text with
  | ':' :: rest =>
    let name := rest.takeWhile fun c => c != ':' && c != ']'
    match rest.drop name.length with
    | ':' :: ']' :: behind =>
      if (Ascii.inClass? (String.ofList name) 'a').isSome then some (.ok (.named (String.ofList name), behind))
      else some (.error .badClassName)
    | _ => if rest.isEmpty then some (.error .unmatchedBracket) else none
  | '.' :: c :: '.' :: ']' :: behind => some (.ok (.range c c, behind))
  | '=' :: c :: '=' :: ']' :: behind => some (.ok (.range c c, behind))
  | _ => none

/-- The ranges of a set up to its end. -/
def readRanges (style : RegexStyle) (fuel : Nat) (isFirst : Bool) (read : List CharRange) (text : List Char) :
    Result (List CharRange) :=
  match fuel, text with
  | 0, _ => .error .unmatchedBracket
  | _, [] => .error .unmatchedBracket
  | fuel + 1, c :: rest =>
    if c = ']' && !isFirst then .ok (read, rest)
    else
      match if c = '[' then readNamed rest else none with
      | some (.error fault) => .error fault
      | some (.ok (.named name, rest)) => readRanges style fuel false (.named name :: read) rest
      | some (.ok (.range c _, rest)) => upTo fuel c rest
      | none =>
        match c, rest with
        | '\\', d :: behind => if style.escapesInSets then upTo fuel d behind else upTo fuel c rest
        | c, rest => upTo fuel c rest
where
  /-- A character, or a range that begins with it. -/
  upTo (fuel : Nat) (first : Char) (text : List Char) : Result (List CharRange) :=
    match text with
    | '-' :: ']' :: _ => readRanges style fuel false (.range first first :: read) text
    | '-' :: last :: rest =>
      let (last, rest) :=
        match last, rest with
        | '[', rest =>
          match readNamed rest with
          | some (.ok (.range c _, behind)) => (c, behind)
          | _ => (last, rest)
        | '\\', d :: behind => if style.escapesInSets then (d, behind) else (last, rest)
        | last, rest => (last, rest)
      if last < first then .error .badRange else readRanges style fuel false (.range first last :: read) rest
    | text => readRanges style fuel false (.range first first :: read) text

def readSet (style : RegexStyle) (text : List Char) : Result CharSet :=
  let (negated, body) :=
    match text with
    | '^' :: rest => (true, rest)
    | rest => (false, rest)
  if body.isEmpty then .error .lastBracket
  else (readRanges style (text.length + 1) true [] body).map fun (ranges, rest) => ({ negated, ranges := ranges.reverse }, rest)

/-- The bounds of an interval, and what stands behind its closing brace. -/
def readInterval (style : RegexStyle) (text : List Char) : Result (Nat × Option Nat) :=
  let low := text.takeWhile Char.isDigit
  let rest := text.drop low.length
  let close (least : Nat) (most : Option Nat) (rest : List Char) : Result (Nat × Option Nat) :=
    let behind : Option (List Char) :=
      match style.extended, rest with
      | true, '\x7d' :: behind => some behind
      | false, '\\' :: '\x7d' :: behind => some behind
      | _, _ => none
    match behind with
    | none => .error (if rest.isEmpty then .unmatchedBrace else .badInterval)
    | some behind =>
      if most.any (· < least) then .error .badInterval
      else if 32767 < least || most.any (32767 < ·) then .error .tooBig
      else .ok ((least, most), behind)
  match rest with
  | ',' :: rest =>
    let high := rest.takeWhile Char.isDigit
    let least := if low.isEmpty then 0 else Ascii.number 10 low
    close least (if high.isEmpty then none else some (Ascii.number 10 high)) (rest.drop high.length)
  | rest =>
    if low.isEmpty then .error (if rest.isEmpty then .unmatchedBrace else .badInterval)
    else close (Ascii.number 10 low) (some (Ascii.number 10 low)) rest

/-- The signs of an expression. -/
inductive Sign where
  | set (set : CharSet)
  | anchor (kind : Anchor)
  | repetition (least : Nat) (most : Option Nat)
  | opening
  | closing
  | bar
  | again (number : Nat)
  deriving Inhabited

def letterSign? : Char → Option Sign
  | 'w' => some (.set { ranges := CharSet.wordRanges })
  | 'W' => some (.set { negated := true, ranges := CharSet.wordRanges })
  | 's' => some (.set { ranges := [.named "space"] })
  | 'S' => some (.set { negated := true, ranges := [.named "space"] })
  | 'b' => some (.anchor .wordEdge)
  | 'B' => some (.anchor .noWordEdge)
  | '<' => some (.anchor .wordStart)
  | '>' => some (.anchor .wordEnd)
  | '\x60' => some (.anchor .textStart)
  | '\'' => some (.anchor .textEnd)
  | _ => none

/-- A caret is an anchor at the beginning of a basic expression or of a part of it. -/
def isAtStart (before : Option Sign) : Bool :=
  match before with
  | none => true
  | some .opening => true
  | some .bar => true
  | _ => false

def isAtEnd (text : List Char) : Bool :=
  match text with
  | [] => true
  | '\\' :: ')' :: _ => true
  | '\\' :: '|' :: _ => true
  | _ => false

/-- A repetition, or plain text where it would have nothing to repeat. -/
def repeatSign (style : RegexStyle) (before : Option Sign) (c : Char) (least : Nat) (most : Option Nat) :
    Except RegexFault (List Sign) :=
  let isBare := isAtStart before || before matches some (.anchor .lineStart)
  let isTwice := before matches some (.repetition ..)
  if !isBare then (if style.strict && !style.extended && isTwice then .error .nothingBefore else .ok [.repetition least most])
  else if style.extended then (if style.strict then .error .nothingBefore else .ok [])
  else .ok [.set (.one c)]

/-- All the signs of an expression, in order. -/
def signs (style : RegexStyle) (fuel : Nat) (before : Option Sign) (text : List Char) : Except RegexFault (List Sign) :=
  match fuel, text with
  | 0, _ => .ok []
  | _, [] => .ok []
  | fuel + 1, c :: rest => do
    let go (sign : Sign) (rest : List Char) : Except RegexFault (List Sign) := do
      return sign :: (← signs style fuel (some sign) rest)
    let plain (c : Char) (rest : List Char) : Except RegexFault (List Sign) := go (.set (.one c)) rest
    let repetition (c : Char) (least : Nat) (most : Option Nat) (rest : List Char) : Except RegexFault (List Sign) := do
      match ← repeatSign style before c least most with
      | [] => signs style fuel before rest
      | read => return read ++ (← signs style fuel read.getLast? rest)
    let interval (rest : List Char) : Except RegexFault (List Sign) :=
      if isAtStart before then (if style.strict then .error .nothingBefore else plain '\x7b' rest)
      else
        match readInterval style rest with
        | .ok ((least, most), behind) => go (.repetition least most) behind
        | .error fault => if style.extended && !style.strict && fault != .tooBig then plain c rest else .error fault
    match c, rest with
    | '\\', [] => .error .trailingBackslash
    | '\\', d :: rest =>
      if d.isDigit && d != '0' then go (.again (d.toNat - '0'.toNat)) rest
      else
        match letterSign? d with
        | some sign => go sign rest
        | none =>
          if style.extended then plain d rest
          else if d = '(' then go .opening rest
          else if d = ')' then go .closing rest
          else if d = '|' then go .bar rest
          else if d = '\x7b' then interval rest
          else if d = '+' then repetition d 1 none rest
          else if d = '?' then repetition d 0 (some 1) rest
          else plain d rest
    | '[', rest =>
      let (set, rest) ← readSet style rest
      go (.set set) rest
    | '.', rest => go (.set .any) rest
    | '*', rest => repetition c 0 none rest
    | '^', rest => if style.extended || isAtStart before then go (.anchor .lineStart) rest else plain c rest
    | '$', rest => if style.extended || isAtEnd rest then go (.anchor .lineEnd) rest else plain c rest
    | c, rest =>
      if !style.extended then plain c rest
      else if c = '(' then go .opening rest
      else if c = ')' then go .closing rest
      else if c = '|' then go .bar rest
      else if c = '\x7b' then interval rest
      else if c = '+' then repetition c 1 none rest
      else if c = '?' then repetition c 0 (some 1) rest
      else plain c rest

/-- What has been read of an expression: the signs left, and how many groups have begun. -/
structure Reading where
  signs : List Sign
  begun : Nat := 0
  closed : List Nat := []

abbrev Step : Type := Reading → Except RegexFault (Regex × Reading)

def repeatAll (regex : Regex) : List Sign → Regex × List Sign
  | .repetition least most :: rest => repeatAll (.repeated regex least most) rest
  | rest => (regex, rest)

mutual

def readEither (style : RegexStyle) (fuel depth : Nat) : Step := fun reading =>
  match fuel with
  | 0 => .error .tooBig
  | fuel + 1 => do
    let (first, reading) ← readChain style fuel depth none reading
    match reading.signs with
    | .bar :: rest => do
      let (second, reading) ← readEither style fuel depth { reading with signs := rest }
      return (.either first second, reading)
    | _ => return (first, reading)

def readChain (style : RegexStyle) (fuel depth : Nat) (read : Option Regex) : Step := fun reading =>
  match fuel with
  | 0 => .error .tooBig
  | fuel + 1 =>
    let more (regex : Regex) (reading : Reading) : Except RegexFault (Regex × Reading) :=
      let (regex, rest) := repeatAll regex reading.signs
      readChain style fuel depth (some (match read with
        | some before => .chain before regex
        | none => regex)) { reading with signs := rest }
    match reading.signs with
    | [] => .ok (read.getD .empty, reading)
    | .bar :: _ => .ok (read.getD .empty, reading)
    | .closing :: rest =>
      if depth = 0 then
        if style.plainClosing then more (.one (.one ')')) { reading with signs := rest } else .error .unmatchedClose
      else .ok (read.getD .empty, { reading with signs := .closing :: rest })
    | .set set :: rest => more (.one set) { reading with signs := rest }
    | .anchor kind :: rest => more (.anchor kind) { reading with signs := rest }
    | .repetition _ _ :: rest => readChain style fuel depth read { reading with signs := rest }
    | .again number :: rest =>
      if reading.closed.contains number then more (.again number) { reading with signs := rest } else .error .badReference
    | .opening :: rest => do
      let number := reading.begun + 1
      let (body, reading) ← readEither style fuel (depth + 1) { reading with signs := rest, begun := number }
      match reading.signs with
      | .closing :: rest => more (.group number body) { reading with signs := rest, closed := number :: reading.closed }
      | _ => .error .unmatchedOpen

end

/-- A class that stands by itself, with the signs of a set around it missing. -/
def isBareClass (text : List Char) : Bool :=
  match text with
  | '[' :: ':' :: rest =>
    match rest.dropWhile Char.isAlpha with
    | [':', ']'] => true
    | _ => false
  | _ => false

end RegexStyle

/-- Reads an expression. -/
def Regex.ofText (style : RegexStyle) (text : String) : Except RegexFault Regex := do
  if RegexStyle.isBareClass text.toList then throw .bareClass
  let signs ← style.signs (text.length + 1) none text.toList
  let (regex, _) ← style.readEither (8 * signs.length + 8) 0 { signs }
  return regex

end BuildWatch
