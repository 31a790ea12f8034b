import BuildWatch.Toolbox.Awk.Reader

/-! Reading the statements of a script, its functions and its rules. -/

namespace BuildWatch.Toolbox.Awk

namespace Parse

/-- What surrounds a statement. -/
structure Scope where
  inFunction : Bool := false
  inLoop : Bool := false
  /-- There is a record that can be left for the next one. -/
  hasRecord : Bool := true

def isEnd (token : Option Token) : Bool :=
  isNewline token || isSign ";" token || isSign "\x7d" token || token.isNone

/-- Where output goes, if that is said. -/
def readChannel (fuel : Nat) : Parse (Option (Channel × Expr)) := do
  let mode : Mode := { greater := false }
  if ← takeSign ">>" then return some (.appended, ← readExpr fuel mode)
  else if ← takeSign ">" then return some (.file, ← readExpr fuel mode)
  else if ← takeSign "|" then return some (.command, ← readExpr fuel mode)
  else return none

def readPrinted (fuel : Nat) : Parse (List Expr) := do
  let token ← peek
  if isEnd token || isSign ">" token || isSign ">>" token || isSign "|" token then return []
  match ← readMany fuel { greater := false } with
  | [.tuple values] => return values
  | values => return values

mutual

def readStatement (fuel : Nat) (scope : Scope) : Parse Statement := do
  match fuel with
  | 0 => fail "script too long"
  | fuel + 1 =>
    let token ← peek
    match token with
    | some (.sign "\x7b") => readBlock fuel scope
    | some (.sign ";") =>
      advance
      newlines
      return .block []
    | some (.keyword "if") =>
      advance
      need "("
      newlines
      let condition ← readExpr fuel {}
      newlines
      need ")"
      newlines
      let first ← readStatement fuel scope
      let before ← get
      skipEnds plenty
      if isWord "else" (← peek) then
        advance
        newlines
        return .ifElse condition first (some (← readStatement fuel scope))
      else
        set before
        return .ifElse condition first none
    | some (.keyword "while") =>
      advance
      need "("
      newlines
      let condition ← readExpr fuel {}
      newlines
      need ")"
      newlines
      return .whileTrue condition (← readStatement fuel { scope with inLoop := true })
    | some (.keyword "do") =>
      advance
      newlines
      let body ← readStatement fuel { scope with inLoop := true }
      skipEnds plenty
      if !isWord "while" (← peek) then unexpected
      advance
      need "("
      newlines
      let condition ← readExpr fuel {}
      newlines
      need ")"
      endStatement
      return .doWhile body condition
    | some (.keyword "for") =>
      advance
      need "("
      readLoop fuel scope
    | _ =>
      let statement ← readSimple fuel scope
      endStatement
      return statement

/-- A loop, behind its opening parenthesis. -/
def readLoop (fuel : Nat) (scope : Scope) : Parse Statement := do
  match fuel with
  | 0 => fail "script too long"
  | fuel + 1 =>
    let inner := { scope with inLoop := true }
    match (← get).tokens with
    | (.name name, _) :: (.keyword "in", _) :: (.name table, _) :: (.sign ")", _) :: _ =>
      modify fun rest => { rest with tokens := rest.tokens.drop 4 }
      newlines
      return .forKeys name table (← readStatement fuel inner)
    | _ =>
      let start ← if isSign ";" (← peek) then pure none else pure (some (← readSimple fuel scope))
      need ";"
      newlines
      let condition ← if isSign ";" (← peek) then pure none else pure (some (← readExpr fuel {}))
      need ";"
      newlines
      let step ← if isSign ")" (← peek) then pure none else pure (some (← readSimple fuel scope))
      need ")"
      if ← takeSign ";" then
        newlines
        return .forLoop start condition step (.block [])
      newlines
      return .forLoop start condition step (← readStatement fuel inner)

/-- A statement without others in it. -/
def readSimple (fuel : Nat) (scope : Scope) : Parse Statement := do
  match fuel with
  | 0 => fail "script too long"
  | fuel + 1 =>
    match ← peek with
    | some (.keyword "print") =>
      advance
      let values ← readPrinted fuel
      return .print values (← readChannel fuel)
    | some (.keyword "printf") =>
      advance
      let values ← readPrinted fuel
      if values.isEmpty then unexpected
      return .printFormat values (← readChannel fuel)
    | some (.keyword "next") =>
      if !scope.hasRecord then fail "improper use of next"
      advance
      return .nextRecord
    | some (.keyword "nextfile") =>
      if !scope.hasRecord then fail "improper use of nextfile"
      advance
      return .nextFile
    | some (.keyword "exit") =>
      advance
      if isEnd (← peek) then return .leave none else return .leave (some (← readExpr fuel {}))
    | some (.keyword "return") =>
      if !scope.inFunction then fail "return outside function body"
      advance
      if isEnd (← peek) then return .answer none else return .answer (some (← readExpr fuel {}))
    | some (.keyword "break") =>
      if !scope.inLoop then fail "break statement outside of loop"
      advance
      return .stop
    | some (.keyword "continue") =>
      if !scope.inLoop then fail "continue statement outside of loop"
      advance
      return .again
    | some (.keyword "delete") =>
      advance
      let name ← nameOf
      if ← takeSign "[" then
        let keys ← readMany fuel {}
        need "]"
        return .forget name keys
      else return .forget name []
    | _ => return .evaluate (← readExpr fuel {})

def readBlock (fuel : Nat) (scope : Scope) : Parse Statement := do
  match fuel with
  | 0 => fail "script too long"
  | fuel + 1 =>
    need "\x7b"
    skipEnds plenty
    return .block (← readStatements fuel scope)

def readStatements (fuel : Nat) (scope : Scope) : Parse (List Statement) := do
  match fuel with
  | 0 => fail "script too long"
  | fuel + 1 =>
    if ← takeSign "\x7d" then return []
    else
      let statement ← readStatement fuel scope
      skipEnds plenty
      return statement :: (← readStatements fuel scope)

end

/-- Names between parentheses. -/
def readParameters (fuel : Nat) : Parse (List String) := do
  match fuel with
  | 0 => fail "script too long"
  | fuel + 1 =>
    if ← takeSign ")" then return []
    let name ← nameOf
    newlines
    if ← takeSign "," then
      newlines
      return name :: (← readParameters fuel)
    else
      need ")"
      return [name]

def readFunction (fuel : Nat) (script : Script) : Parse Script := do
  let name ←
    match ← peek with
    | some (.callee name) => pure name
    | some (.name name) => pure name
    | _ => unexpected
  if script.functions.any (·.name == name) then fail s!"redefinition of {name}"
  advance
  need "("
  let parameters ← readParameters fuel
  newlines
  let body ← readBlock fuel { inFunction := true }
  return { script with functions := script.functions ++ [{ name, parameters, body }] }

def readAction (fuel : Nat) (hasRecord : Bool) : Parse (Option Statement) := do
  if isSign "\x7b" (← peek) then return some (← readBlock fuel { hasRecord }) else return none

def readRule (fuel : Nat) (script : Script) : Parse Script := do
  let add (when : When) (action : Option Statement) : Script := { script with rules := script.rules ++ [{ when, action }] }
  match ← peek with
  | some (.keyword "BEGIN") =>
    advance
    if !isSign "\x7b" (← peek) then unexpected
    return add .atStart (← readAction fuel false)
  | some (.keyword "END") =>
    advance
    if !isSign "\x7b" (← peek) then unexpected
    return add .atEnd (← readAction fuel false)
  | some (.sign "\x7b") => return add .always (← readAction fuel true)
  | some (.sign "\x7d") => fail "extra '\x7d'"
  | _ =>
    let first ← readExpr fuel {}
    if ← takeSign "," then
      newlines
      let last ← readExpr fuel {}
      return add (.between first last) (← readAction fuel true)
    else return add (.onTruth first) (← readAction fuel true)

def readRules (fuel : Nat) (script : Script) : Parse Script := do
  match fuel with
  | 0 => fail "script too long"
  | fuel + 1 =>
    skipEnds plenty
    match ← peek with
    | none => return script
    | some (.keyword word) =>
      if word = "function" || word = "func" then
        advance
        readRules fuel (← readFunction fuel script)
      else readRules fuel (← readRule fuel script)
    | some _ => readRules fuel (← readRule fuel script)

end Parse

namespace Script

/-- Reads a script. -/
def ofText (text : String) : Except Fault Script := do
  let tokens ← Token.ofText text
  let endLine := text.toList.count '\n' + (if text.endsWith "\n" then 1 else 2)
  let (script, _) ← (Parse.readRules (20 * tokens.length + 100) {}).run { tokens, endLine }
  return script

end Script

end BuildWatch.Toolbox.Awk
