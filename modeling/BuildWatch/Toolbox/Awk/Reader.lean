import BuildWatch.Toolbox.Awk.Token

/-! Reading a script. Of operations, those that bind tighter are read further inside. -/

namespace BuildWatch.Toolbox.Awk

/-- What is left of a script, and the line in which it ends. -/
structure Rest where
  tokens : List (Token × Nat)
  endLine : Nat

abbrev Parse : Type → Type := StateT Rest (Except Fault)

namespace Parse

def peek : Parse (Option Token) := do return (← get).tokens.head?.map (·.1)

def line : Parse Nat := do
  let rest ← get
  return (rest.tokens.head?.map (·.2)).getD rest.endLine

def advance : Parse Unit := modify fun rest => { rest with tokens := rest.tokens.drop 1 }

def fail {α : Type} (text : String) : Parse α := do throw ⟨← line, text⟩

/-- What is there does not belong there. -/
def unexpected {α : Type} : Parse α := do
  match ← peek with
  | none => fail "missing \x7d near end of file"
  | some (.sign ")") => fail "extra ')'"
  | some token => fail s!"syntax error at or near {token.shown}"

def isSign (text : String) : Option Token → Bool
  | some (.sign other) => text = other
  | _ => false

def isWord (text : String) : Option Token → Bool
  | some (.keyword other) => text = other
  | _ => false

def isNewline : Option Token → Bool
  | some .newline => true
  | _ => false

/-- Takes a sign if it is there. -/
def takeSign (text : String) : Parse Bool := do
  if isSign text (← peek) then
    advance
    return true
  else return false

def need (text : String) : Parse Unit := do
  if !(← takeSign text) then
    match ← peek with
    | none => unexpected
    | some token => fail s!"syntax error at or near {token.shown}"

def skipNewlines (fuel : Nat) : Parse Unit := do
  match fuel with
  | 0 => return
  | fuel + 1 =>
    if isNewline (← peek) then
      advance
      skipNewlines fuel

/-- More than there are tokens. -/
def plenty : Nat := 100000

def newlines : Parse Unit := skipNewlines plenty

/-- Takes what separates statements. -/
def skipEnds (fuel : Nat) : Parse Unit := do
  match fuel with
  | 0 => return
  | fuel + 1 =>
    let token ← peek
    if isNewline token || isSign ";" token then
      advance
      skipEnds fuel

def endStatement : Parse Unit := do
  let token ← peek
  if isNewline token || isSign ";" token then
    advance
    newlines
  else if !(isSign "\x7d" token) then unexpected

def nameOf : Parse String := do
  match ← peek with
  | some (.name name) =>
    advance
    return name
  | _ => unexpected

def regexFault : RegexFault → String
  | .unmatchedOpen => "missing ')'"
  | .unmatchedClose => "missing '('"
  | .nothingBefore => "missing operand"
  | _ => "bad class -- [], [^] or ["

/-- An expression, in which braces stand for themselves. -/
def regexOf? (text : String) : Except RegexFault Regex :=
  let rec plain : List Char → List Char
    | '\\' :: c :: rest =>
      match c with
      | 'n' => '\n' :: plain rest
      | 't' => '\t' :: plain rest
      | '"' => '"' :: plain rest
      | '/' => '/' :: plain rest
      | c => '\\' :: c :: plain rest
    | '\x7b' :: rest => '\\' :: '\x7b' :: plain rest
    | '\x7d' :: rest => '\\' :: '\x7d' :: plain rest
    | c :: rest => c :: plain rest
    | [] => []
  Regex.ofText { extended := true, escapesInSets := true } (String.ofList (plain text.toList))

def regexOf (text : String) : Parse Regex := do
  match regexOf? text with
  | .ok regex => return regex
  | .error fault => fail s!"regular expression compile failed ({regexFault fault})\n{text}"

/-- Which signs are operations where an expression stands. -/
structure Mode where
  greater : Bool := true
  membership : Bool := true

def isTarget : Expr → Bool
  | .name _ => true
  | .item _ _ => true
  | .field _ => true
  | _ => false

def relation? : Option Token → Option Relation
  | some (.sign "<") => some .less
  | some (.sign "<=") => some .lessOrEqual
  | some (.sign "==") => some .equal
  | some (.sign "!=") => some .unequal
  | some (.sign ">") => some .greater
  | some (.sign ">=") => some .greaterOrEqual
  | _ => none

/-- An assignment, and the operation in it. -/
def assignment? : Option Token → Option (Option Arith)
  | some (.sign "=") => some none
  | some (.sign "+=") => some (some .add)
  | some (.sign "-=") => some (some .subtract)
  | some (.sign "*=") => some (some .multiply)
  | some (.sign "/=") => some (some .divide)
  | some (.sign "%=") => some (some .remainder)
  | some (.sign "^=") => some (some .power)
  | _ => none

/-- A value begins here, which is joined to the one before. -/
def beginsValue : Option Token → Bool
  | some (.number _ _) => true
  | some (.quoted _) => true
  | some (.regex _) => true
  | some (.name _) => true
  | some (.callee _) => true
  | some (.primitive _ _) => true
  | some (.sign text) => ["$", "(", "++", "--"].contains text
  | _ => false

mutual

def readExpr (fuel : Nat) (mode : Mode) : Parse Expr := do
  match fuel with
  | 0 => fail "script too long"
  | fuel + 1 =>
    let first ← readEither fuel mode
    let token ← peek
    match assignment? token with
    | some operation =>
      if !isTarget first then unexpected
      advance
      newlines
      return .assign operation first (← readExpr fuel mode)
    | none =>
      if isSign "?" token then
        advance
        newlines
        let second ← readExpr fuel { mode with greater := true }
        newlines
        need ":"
        newlines
        return .choose first second (← readExpr fuel mode)
      else return first

def readEither (fuel : Nat) (mode : Mode) : Parse Expr := do
  match fuel with
  | 0 => fail "script too long"
  | fuel + 1 =>
    let first ← readBoth fuel mode
    if ← takeSign "||" then
      newlines
      return .either first (← readEither fuel mode)
    else return first

def readBoth (fuel : Nat) (mode : Mode) : Parse Expr := do
  match fuel with
  | 0 => fail "script too long"
  | fuel + 1 =>
    let first ← readMembership fuel mode
    if ← takeSign "&&" then
      newlines
      return .both first (← readBoth fuel mode)
    else return first

def readMembership (fuel : Nat) (mode : Mode) : Parse Expr := do
  match fuel with
  | 0 => fail "script too long"
  | fuel + 1 =>
    let first ← readFits fuel mode
    if mode.membership && isWord "in" (← peek) then
      advance
      let table ← nameOf
      return .contains (match first with
        | .tuple values => values
        | value => [value]) table
    else return first

def readFits (fuel : Nat) (mode : Mode) : Parse Expr := do
  match fuel with
  | 0 => fail "script too long"
  | fuel + 1 => readFitsBehind fuel mode (← readRelation fuel mode)

def readFitsBehind (fuel : Nat) (mode : Mode) (first : Expr) : Parse Expr := do
  match fuel with
  | 0 => fail "script too long"
  | fuel + 1 =>
    if ← takeSign "~" then readFitsBehind fuel mode (.fits false first (← readRelation fuel mode))
    else if ← takeSign "!~" then readFitsBehind fuel mode (.fits true first (← readRelation fuel mode))
    else return first

def readRelation (fuel : Nat) (mode : Mode) : Parse Expr := do
  match fuel with
  | 0 => fail "script too long"
  | fuel + 1 =>
    let first ← readJoined fuel mode
    let token ← peek
    match relation? token with
    | some relation =>
      if !mode.greater && relation = .greater then return first
      advance
      return .compare relation first (← readJoined fuel mode)
    | none => return first

def readJoined (fuel : Nat) (mode : Mode) : Parse Expr := do
  match fuel with
  | 0 => fail "script too long"
  | fuel + 1 => readJoinedBehind fuel mode (← readSum fuel mode)

def readJoinedBehind (fuel : Nat) (mode : Mode) (first : Expr) : Parse Expr := do
  match fuel with
  | 0 => fail "script too long"
  | fuel + 1 =>
    if beginsValue (← peek) then readJoinedBehind fuel mode (.join first (← readSum fuel mode)) else return first

def readSum (fuel : Nat) (mode : Mode) : Parse Expr := do
  match fuel with
  | 0 => fail "script too long"
  | fuel + 1 => readSumBehind fuel mode (← readProduct fuel mode)

def readSumBehind (fuel : Nat) (mode : Mode) (first : Expr) : Parse Expr := do
  match fuel with
  | 0 => fail "script too long"
  | fuel + 1 =>
    if ← takeSign "+" then readSumBehind fuel mode (.arith .add first (← readProduct fuel mode))
    else if ← takeSign "-" then readSumBehind fuel mode (.arith .subtract first (← readProduct fuel mode))
    else return first

def readProduct (fuel : Nat) (mode : Mode) : Parse Expr := do
  match fuel with
  | 0 => fail "script too long"
  | fuel + 1 => readProductBehind fuel mode (← readSigned fuel mode)

def readProductBehind (fuel : Nat) (mode : Mode) (first : Expr) : Parse Expr := do
  match fuel with
  | 0 => fail "script too long"
  | fuel + 1 =>
    if ← takeSign "*" then readProductBehind fuel mode (.arith .multiply first (← readSigned fuel mode))
    else if ← takeSign "/" then readProductBehind fuel mode (.arith .divide first (← readSigned fuel mode))
    else if ← takeSign "%" then readProductBehind fuel mode (.arith .remainder first (← readSigned fuel mode))
    else return first

def readSigned (fuel : Nat) (mode : Mode) : Parse Expr := do
  match fuel with
  | 0 => fail "script too long"
  | fuel + 1 =>
    if ← takeSign "!" then return .opposite (← readSigned fuel mode)
    else if ← takeSign "-" then return .negate (← readSigned fuel mode)
    else if ← takeSign "+" then return .plus (← readSigned fuel mode)
    else readPiped fuel mode (← readPower fuel mode)

/-- Commands whose output is read. -/
def readPiped (fuel : Nat) (mode : Mode) (first : Expr) : Parse Expr := do
  match fuel with
  | 0 => fail "script too long"
  | fuel + 1 =>
    match (← get).tokens with
    | (.sign "|", _) :: (.keyword "getline", _) :: _ =>
      advance
      advance
      readPiped fuel mode (.readCommand first (← readTarget fuel))
    | _ => return first

def readPower (fuel : Nat) (mode : Mode) : Parse Expr := do
  match fuel with
  | 0 => fail "script too long"
  | fuel + 1 =>
    let first ← readCounted fuel
    if ← takeSign "^" then
      if ← takeSign "-" then return .arith .power first (.negate (← readPower fuel mode))
      else return .arith .power first (← readPower fuel mode)
    else return first

/-- A value that may be counted up or down behind. -/
def readCounted (fuel : Nat) : Parse Expr := do
  match fuel with
  | 0 => fail "script too long"
  | fuel + 1 =>
    let value ← readPrimary fuel
    if isTarget value then
      if ← takeSign "++" then return .count value true true
      else if ← takeSign "--" then return .count value false true
      else return value
    else return value

/-- A variable that a record is read into, if one is named. -/
def readTarget (fuel : Nat) : Parse (Option Expr) := do
  match fuel with
  | 0 => fail "script too long"
  | fuel + 1 =>
    match ← peek with
    | some (.name _) => return some (← readPrimary fuel)
    | some (.sign "$") => return some (← readPrimary fuel)
    | _ => return none

def readPrimary (fuel : Nat) : Parse Expr := do
  match fuel with
  | 0 => fail "script too long"
  | fuel + 1 =>
    match ← peek with
    | some (.number value _) =>
      advance
      return .number value
    | some (.quoted text) =>
      advance
      return .text text
    | some (.regex text) =>
      let regex ← regexOf text
      advance
      return .regex regex
    | some (.name name) =>
      advance
      if ← takeSign "[" then
        let keys ← readMany fuel {}
        need "]"
        return .item name keys
      else return .name name
    | some (.callee name) =>
      advance
      need "("
      newlines
      if ← takeSign ")" then return .call name []
      let arguments ← readMany fuel {}
      newlines
      need ")"
      return .call name arguments
    | some (.primitive function _) =>
      advance
      if ← takeSign "(" then
        newlines
        if ← takeSign ")" then return .primitive function []
        let arguments ← readMany fuel {}
        newlines
        need ")"
        return .primitive function arguments
      else if function = .length then return .primitive .length []
      else unexpected
    | some (.keyword "getline") =>
      advance
      let target ← readTarget fuel
      if ← takeSign "<" then return .readFile target (← readCounted fuel) else return .readNext target
    | some (.sign "$") =>
      advance
      if ← takeSign "-" then return .field (.negate (← readPrimary fuel)) else return .field (← readPrimary fuel)
    | some (.sign "++") =>
      advance
      let value ← readPrimary fuel
      if isTarget value then return .count value true false else unexpected
    | some (.sign "--") =>
      advance
      let value ← readPrimary fuel
      if isTarget value then return .count value false false else unexpected
    | some (.sign "-") =>
      advance
      return .negate (← readPrimary fuel)
    | some (.sign "+") =>
      advance
      return .plus (← readPrimary fuel)
    | some (.sign "!") =>
      advance
      return .opposite (← readPrimary fuel)
    | some (.sign "(") =>
      advance
      newlines
      let values ← readMany fuel {}
      newlines
      need ")"
      match values with
      | [value] => return .grouped value
      | values => return .tuple values
    | _ => unexpected

/-- Values with commas between them. -/
def readMany (fuel : Nat) (mode : Mode) : Parse (List Expr) := do
  match fuel with
  | 0 => fail "script too long"
  | fuel + 1 =>
    let first ← readExpr fuel mode
    if ← takeSign "," then
      newlines
      return first :: (← readMany fuel mode)
    else return [first]

end

end Parse

end BuildWatch.Toolbox.Awk
