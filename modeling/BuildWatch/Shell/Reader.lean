import BuildWatch.Shell.Source

/-! Reading the commands of a shell. Each reader takes what it has read from the source. -/

namespace BuildWatch.Shell

open Source

namespace Reader

def fail (reason : String) : Reader α := do throw ⟨(← get).line, reason⟩

def unexpected (token : Token) : Reader α := fail s!"Syntax error: {token.name} unexpected"

def unexpectedFor (wanted : String) (token : Token) : Reader α :=
  fail s!"Syntax error: {token.name} unexpected (expecting \"{wanted}\")"

def broken (reason : String) : Reader α := fail s!"Syntax error: {reason}"

def push (token : Token) : Reader Unit := modify fun source => { source with pushed := some token }

/-- What a piece of a word stands in, which decides what ends it and what is special in it. -/
inductive Context where
  /-- Outside quotes. -/
  | word
  /-- In braces outside quotes. -/
  | braced
  | quoted
  /-- In braces inside quotes, perhaps between quotes of its own. -/
  | bracedQuoted (inner : Bool)
  | arithmetic (depth : Nat)
  /-- In a text that follows its command. -/
  | here
  deriving DecidableEq, Inhabited

namespace Context

def isQuoted : Context → Bool
  | word => false
  | braced => false
  | _ => true

/-- A backslash in front of these goes. Outside quotes it always goes. -/
def isEscapable (context : Context) (c : Char) : Bool :=
  match context with
  | word => true
  | braced => true
  | bracedQuoted _ => c = '\\' || c = '\x60' || c = '$' || c = '"' || c = '\x7d'
  | here => c = '\\' || c = '\x60' || c = '$'
  | _ => c = '\\' || c = '\x60' || c = '$' || c = '"'

/-- What is wrong where the text ends inside. -/
def endFault : Context → String
  | braced => "Missing '\x7d'"
  | arithmetic _ => "Missing '))'"
  | _ => "Unterminated quoted string"

end Context

def parameterSigns : List Char := "!#$*-?@".toList

/-- The text up to the closing backquote. A backslash in it protects what would end or change it. -/
def backquoted (isQuoted : Bool) (held : List Char) : List Char → Option (List Char × List Char)
  | [] => none
  | '\x60' :: rest => some (held.reverse, rest)
  | '\\' :: c :: rest =>
    if c = '\n' then backquoted isQuoted held rest
    else if c = '\x60' || c = '\\' || c = '$' || (isQuoted && c = '"') then backquoted isQuoted (c :: held) rest
    else backquoted isQuoted (c :: '\\' :: held) rest
  | c :: rest => backquoted isQuoted (c :: held) rest

/-- A descriptor number and a redirection sign behind it. -/
def redirectSign? (text : List Char) : Option (Nat × Redirect × Bool × List Char) :=
  let (given, text) :=
    match text with
    | c :: rest => if c.isDigit then (some (c.toNat - '0'.toNat), rest) else (none, c :: rest)
    | [] => (none, [])
  match text with
  | '<' :: '<' :: '-' :: rest => some (given.getD 0, .hereText, true, rest)
  | '<' :: '<' :: rest => some (given.getD 0, .hereText, false, rest)
  | '<' :: '&' :: rest => some (given.getD 0, .duplicate, false, rest)
  | '<' :: '>' :: rest => some (given.getD 0, .inputOutput, false, rest)
  | '<' :: rest => some (given.getD 0, .input, false, rest)
  | '>' :: '>' :: rest => some (given.getD 1, .append, false, rest)
  | '>' :: '&' :: rest => some (given.getD 1, .duplicate, false, rest)
  | '>' :: '|' :: rest => some (given.getD 1, .clobber, false, rest)
  | '>' :: rest => some (given.getD 1, .output, false, rest)
  | _ => none

/-- The word that closes a text: nothing is expanded in it. -/
def readDelimiter (fuel : Nat) (read : Word) : Reader Word := do
  match fuel, (← get).text with
  | 0, _ => return read.reverse
  | _, [] => return read.reverse
  | fuel + 1, '\\' :: c :: rest =>
    modify fun source => source.behind c rest
    readDelimiter fuel (if c = '\n' then read else .text [c] true :: read)
  | fuel + 1, '\'' :: rest =>
    modify fun source => { source with text := (rest.dropWhile (· != '\'')).drop 1 }
    readDelimiter fuel (.text (rest.takeWhile (· != '\'')) true :: read)
  | fuel + 1, '"' :: rest =>
    modify fun source => { source with text := (rest.dropWhile (· != '"')).drop 1 }
    readDelimiter fuel (.text (rest.takeWhile (· != '"')) true :: read)
  | fuel + 1, c :: rest =>
    if isMeta c then return read.reverse
    else
      modify fun source => { source with text := rest }
      readDelimiter fuel (.text [c] false :: read)

/-- The beginning of an expansion in braces. -/
inductive Opening where
  | named (name : List Char)
  | measured (name : List Char)
  | bad

/-- The parameter that an expansion in braces is about, and the text behind it. -/
def opening (text : List Char) : Opening × List Char :=
  let named (text : List Char) : List Char × List Char :=
    match text with
    | c :: _ =>
      if c.isDigit then (text.takeWhile Char.isDigit, text.dropWhile Char.isDigit)
      else (text.takeWhile isNameChar, text.dropWhile isNameChar)
    | [] => ([], [])
  match text with
  | '#' :: c :: rest =>
    if isNameChar c then
      let (name, rest) := named (c :: rest)
      (.measured name, rest)
    else
      match rest with
      | '\x7d' :: _ => if c = '\x7d' then (.named ['#'], c :: rest) else if parameterSigns.contains c then (.measured [c], rest) else (.bad, rest)
      | _ => (.named ['#'], c :: rest)
  | c :: rest =>
    if isNameChar c then
      let (name, rest) := named (c :: rest)
      (.named name, rest)
    else if c = '\x7d' then (.bad, c :: rest)
    else if parameterSigns.contains c then (.named [c], rest)
    else (.bad, rest)
  | [] => (.bad, [])

/-- How deep commands may stand in one another. -/
def depth : Nat := 10000000

/-- How a list of commands may begin and end. -/
inductive Extent where
  /-- Up to the end of a line, or of the whole text. -/
  | line
  /-- With at least one command, up to a token that ends lists. -/
  | filled
  | any
  deriving DecidableEq, Inhabited

mutual

/-- The pieces of a word. What ends them is taken, but not where it ends a word outside quotes. -/
def readParts (fuel : Nat) (context : Context) (read : Word) : Reader Word := do
  match fuel with
  | 0 => broken "word too long"
  | fuel + 1 =>
    let source ← get
    let go (part : Part) (text : List Char) : Reader Word := do
      set { source with text }
      readParts fuel context (part :: read)
    let finish (text : List Char) : Reader Word := do
      set { source with text }
      return read.reverse
    match source.text with
    | [] =>
      match context with
      | .word => return read.reverse
      | .here => return read.reverse
      | context => broken context.endFault
    | '\\' :: [] => go (.text ['\\'] true) []
    | '\\' :: c :: rest =>
      if c = '\n' then
        set (source.moved 1 rest)
        readParts fuel context read
      else if context.isEscapable c then go (.text [c] true) rest
      else go (.text ['\\'] true) (c :: rest)
    | '$' :: rest =>
      set { source with text := rest }
      let part ← readDollar fuel context
      readParts fuel context (part :: read)
    | '\x60' :: rest =>
      set { source with text := rest }
      let part ← readBackquoted fuel context.isQuoted
      readParts fuel context (part :: read)
    | '\'' :: rest =>
      if context.isQuoted then go (.text ['\''] true) rest
      else
        let inner := rest.takeWhile (· != '\'')
        set (source.moved (inner.countP (· == '\n')) (rest.drop inner.length))
        match rest.drop inner.length with
        | [] => broken "Unterminated quoted string"
        | _ :: behind =>
          modify fun source => { source with text := behind }
          readParts fuel context (.text inner true :: read)
    | '"' :: rest =>
      match context with
      | .quoted => finish rest
      | .bracedQuoted inner =>
        set { source with text := rest }
        readParts fuel (.bracedQuoted (!inner)) read
      | .here => go (.text ['"'] true) rest
      | .arithmetic _ => go (.text ['"'] true) rest
      | context =>
        set { source with text := rest }
        let parts ← readParts fuel .quoted [.text [] true]
        readParts fuel context (parts.reverse ++ read)
    | '\x7d' :: rest =>
      if context = .braced || context = .bracedQuoted false then finish rest
      else go (.text ['\x7d'] context.isQuoted) rest
    | c :: rest =>
      match context, c with
      | .arithmetic depth, '(' =>
        set { source with text := rest }
        readParts fuel (.arithmetic (depth + 1)) (.text ['('] true :: read)
      | .arithmetic (depth + 1), ')' =>
        set { source with text := rest }
        readParts fuel (.arithmetic depth) (.text [')'] true :: read)
      | .arithmetic 0, ')' =>
        match rest with
        | ')' :: behind => finish behind
        | rest => go (.text [')'] true) rest
      | .word, c =>
        if isMeta c then return read.reverse else go (.text [c] false) rest
      | context, '\n' =>
        set (source.newLine rest)
        readParts fuel context (.text ['\n'] context.isQuoted :: read)
      | context, c => go (.text [c] context.isQuoted) rest

/-- A command between backquotes. -/
def readBackquoted (fuel : Nat) (isQuoted : Bool) : Reader Part := do
  match fuel with
  | 0 => broken "word too long"
  | fuel + 1 =>
    let source ← get
    match backquoted isQuoted [] source.text with
    | none =>
      set (source.moved (source.text.countP (· == '\n')) [])
      broken "EOF in backquote substitution"
    | some (inner, rest) =>
      set { source with text := inner, taken := 0, unfolded := [], pushed := none }
      let command ← readList fuel .any [] true
      let lines := source.text.countP (· == '\n') - rest.countP (· == '\n')
      set (source.moved lines rest)
      return .substitution command isQuoted

/-- An expansion behind its dollar sign. -/
def readDollar (fuel : Nat) (context : Context) : Reader Part := do
  match fuel with
  | 0 => broken "word too long"
  | fuel + 1 =>
    let source ← get
    let (joined, text) := joinedLines source.text
    set (source.moved joined text)
    let quoted := context.isQuoted
    match text with
    | '(' :: rest =>
      let (joined, inner) := joinedLines rest
      match inner with
      | '(' :: rest =>
        modify fun source => source.moved joined rest
        return .arithmetic (← readParts fuel (.arithmetic 0) []).merge quoted
      | _ =>
        let taken := (← get).taken
        modify fun source => { source with text := rest, taken := 0 }
        let command ← readList fuel .any [] true
        match ← take fuel false false false with
        | .sign ")" =>
          modify fun source => { source with taken := source.taken + taken }
          return .substitution command quoted
        | token => unexpectedFor ")" token
    | '\x7b' :: rest =>
      let (joined, rest) := joinedLines rest
      modify fun source => source.moved joined rest
      readBraced fuel context
    | c :: rest =>
      if parameterSigns.contains c || c.isDigit then
        modify fun source => { source with text := rest }
        return .parameter (String.singleton c) .plain quoted
      else if isNameStart c then
        modify fun source => { source with text := text.dropWhile isNameChar }
        return .parameter (String.ofList (text.takeWhile isNameChar)) .plain quoted
      else return .text ['$'] quoted
    | [] => return .text ['$'] quoted

/-- An expansion behind its opening brace. -/
def readBraced (fuel : Nat) (context : Context) : Reader Part := do
  match fuel with
  | 0 => broken "word too long"
  | fuel + 1 =>
    let quoted := context.isQuoted
    let inner : Context := if quoted then .bracedQuoted false else .braced
    let rest (context : Context) (text : List Char) (make : Word → Modifier) (name : List Char) : Reader Part := do
      modify fun source => { source with text }
      let word ← readParts fuel context []
      return .parameter (String.ofList name) (make word.merge) quoted
    let bad (text : List Char) : Reader Part := rest inner text (fun _ => .bad) []
    match opening (← get).text with
    | (.bad, text) => bad text
    | (.measured name, text) => rest inner text (fun word => if word.isEmpty then .length else .bad) name
    | (.named name, text) =>
      match text with
      | '\x7d' :: text =>
        modify fun source => { source with text }
        return .parameter (String.ofList name) .plain quoted
      | ':' :: '-' :: text => rest inner text (.useDefault true) name
      | '-' :: text => rest inner text (.useDefault false) name
      | ':' :: '=' :: text => rest inner text (.assignDefault true) name
      | '=' :: text => rest inner text (.assignDefault false) name
      | ':' :: '+' :: text => rest inner text (.useAlternative true) name
      | '+' :: text => rest inner text (.useAlternative false) name
      | ':' :: '?' :: text => rest inner text (.demand true) name
      | '?' :: text => rest inner text (.demand false) name
      | ':' :: '\x7d' :: text => rest inner text (fun _ => .plain) name
      | ':' :: _ :: text => bad text
      | '#' :: '#' :: text => rest .braced text (.trim true true) name
      | '#' :: text => rest .braced text (.trim true false) name
      | '%' :: '%' :: text => rest .braced text (.trim false true) name
      | '%' :: text => rest .braced text (.trim false false) name
      | _ :: text => bad text
      | [] => bad []

/-- The next token. Reserved words, aliases and empty lines are seen to where that is asked for. -/
def take (fuel : Nat) (keywords aliases lines : Bool) : Reader Token := do
  match fuel with
  | 0 => broken "script too long"
  | fuel + 1 =>
    match ← takePlain fuel with
    | .newline => if lines then take fuel keywords aliases lines else return .newline
    | .word parts =>
      match parts.plain? with
      | none => return .word parts
      | some text =>
        if keywords && Token.keywords.contains text then return .keyword text
        else
          let source ← get
          match if aliases then source.alias? text else none with
          | none => return .word parts
          | some value =>
            modify fun source => source.unfold text value
            take fuel keywords aliases lines
    | token => return token

def takePlain (fuel : Nat) : Reader Token := do
  match fuel with
  | 0 => broken "script too long"
  | fuel + 1 =>
    let source ← get
    match source.pushed with
    | some token =>
      set { source with pushed := none }
      return token
    | none =>
      let (joined, text) := skipBlanks source.text
      let source := source.moved joined text
      let signed (sign : String) (text : List Char) : Reader Token := do
        set { source with text }
        return .sign sign
      match text with
      | [] =>
        set source
        return .endOfText
      | '\n' :: rest =>
        set (source.newLine rest)
        return .newline
      | '&' :: '&' :: rest => signed "&&" rest
      | '&' :: rest => signed "&" rest
      | '|' :: '|' :: rest => signed "||" rest
      | '|' :: rest => signed "|" rest
      | ';' :: ';' :: rest => signed ";;" rest
      | ';' :: rest => signed ";" rest
      | '(' :: rest => signed "(" rest
      | ')' :: rest => signed ")" rest
      | text =>
        match redirectSign? text with
        | some (descriptor, kind, dropTabs, rest) =>
          set { source with text := rest }
          return .redirect descriptor kind dropTabs
        | none =>
          set source
          return .word (← readParts fuel .word []).merge

/-- Looks at the next token, which stays ahead. -/
def peek (fuel : Nat) (keywords aliases lines : Bool) : Reader Token := do
  match fuel with
  | 0 => broken "script too long"
  | fuel + 1 =>
    let token ← take fuel keywords aliases lines
    push token
    return token

/-- Commands up to the end of the list. A token that ends it stays ahead, but not the end of a line. -/
def readList (fuel : Nat) (extent : Extent) (read : List Command) (isFirst : Bool) : Reader Command := do
  match fuel with
  | 0 => broken "script too long"
  | fuel + 1 =>
    let done (read : List Command) : Reader Command :=
      match read with
      | [command] => pure command
      | read => pure (.sequence read.reverse)
    let token ← take fuel true true (extent != .line)
    match token with
    | .newline => done read
    | .endOfText =>
      push .endOfText
      done read
    | token =>
      push token
      if extent != .line && (extent = .any || !isFirst) && token.endsList then done read
      else
        let command ← readAndOr fuel
        match ← take fuel false false false with
        | .sign "&" => readList fuel extent (.background command :: read) false
        | .sign ";" => readList fuel extent (command :: read) false
        | .newline =>
          push .newline
          readList fuel extent (command :: read) false
        | .endOfText =>
          push .endOfText
          done (command :: read)
        | token =>
          if extent = .line then unexpected token
          else
            push token
            done (command :: read)

def readAndOr (fuel : Nat) : Reader Command := do
  match fuel with
  | 0 => broken "script too long"
  | fuel + 1 => readAndOrRest fuel (← readPipeline fuel)

/-- Further commands, each on the condition of those before it. -/
def readAndOrRest (fuel : Nat) (first : Command) : Reader Command := do
  match fuel with
  | 0 => broken "script too long"
  | fuel + 1 =>
    match ← take fuel false false false with
    | .sign "&&" =>
      let _ ← peek fuel true true true
      readAndOrRest fuel (.both first (← readPipeline fuel))
    | .sign "||" =>
      let _ ← peek fuel true true true
      readAndOrRest fuel (.either first (← readPipeline fuel))
    | token =>
      push token
      return first

def readPipeline (fuel : Nat) : Reader Command := do
  match fuel with
  | 0 => broken "script too long"
  | fuel + 1 =>
    match ← take fuel true true false with
    | .keyword "!" =>
      let _ ← peek fuel true true false
      return .negation (← readStages fuel [])
    | token =>
      push token
      readStages fuel []

def readStages (fuel : Nat) (read : List Command) : Reader Command := do
  match fuel with
  | 0 => broken "script too long"
  | fuel + 1 =>
    let stage ← readCommand fuel
    match ← take fuel false false false with
    | .sign "|" =>
      let _ ← peek fuel true true true
      readStages fuel (stage :: read)
    | token =>
      push token
      match read with
      | [] => return stage
      | read => return .pipeline (stage :: read).reverse

/-- Takes a keyword. -/
def expect (fuel : Nat) (wanted : String) : Reader Unit := do
  match fuel with
  | 0 => broken "script too long"
  | fuel + 1 =>
    match ← take fuel true true true with
    | .keyword word => if word = wanted then return () else unexpectedFor wanted (.keyword word)
    | token => unexpectedFor wanted token

/-- One command that is no pipeline: compound, function definition or simple. -/
def readCommand (fuel : Nat) : Reader Command := do
  match fuel with
  | 0 => broken "script too long"
  | fuel + 1 =>
    let line := (← get).line
    let redirected (body : Command) : Reader Command := do
      match ← readRedirections fuel [] with
      | [] => return body
      | redirections => return .redirected line body redirections
    match ← take fuel true true false with
    | .keyword "if" => redirected (← readBranch fuel)
    | .keyword "while" => redirected (← readLoop fuel false)
    | .keyword "until" => redirected (← readLoop fuel true)
    | .keyword "for" => redirected (← readEach fuel line)
    | .keyword "case" => redirected (← readChoose fuel line)
    | .keyword "\x7b" =>
      let body ← readList fuel .filled [] true
      expect fuel "\x7d"
      redirected body
    | .sign "(" =>
      let body ← readList fuel .filled [] true
      match ← take fuel true false false with
      | .sign ")" => return .subshell line body (← readRedirections fuel [])
      | token => unexpectedFor ")" token
    | .word parts =>
      push (.word parts)
      readSimple fuel line [] [] []
    | .redirect descriptor kind dropTabs =>
      push (.redirect descriptor kind dropTabs)
      readSimple fuel line [] [] []
    | token => unexpected token

/-- The rest of a conditional command, behind its first word. -/
def readBranch (fuel : Nat) : Reader Command := do
  match fuel with
  | 0 => broken "script too long"
  | fuel + 1 =>
    let condition ← readList fuel .filled [] true
    expect fuel "then"
    let body ← readList fuel .filled [] true
    match ← take fuel true false false with
    | .keyword "elif" => return .branch condition body (← readBranch fuel)
    | .keyword "else" =>
      let otherwise ← readList fuel .filled [] true
      expect fuel "fi"
      return .branch condition body otherwise
    | token =>
      push token
      expect fuel "fi"
      return .branch condition body .nothing

def readDo (fuel : Nat) : Reader Command := do
  match fuel with
  | 0 => broken "script too long"
  | fuel + 1 =>
    expect fuel "do"
    let body ← readList fuel .filled [] true
    expect fuel "done"
    return body

def readLoop (fuel : Nat) (untilTrue : Bool) : Reader Command := do
  match fuel with
  | 0 => broken "script too long"
  | fuel + 1 =>
    let condition ← readList fuel .filled [] true
    return .loop untilTrue condition (← readDo fuel)

def readEach (fuel line : Nat) : Reader Command := do
  match fuel with
  | 0 => broken "script too long"
  | fuel + 1 =>
    match ← take fuel false false false with
    | .word [.text name false] =>
      if !isName name then broken "Bad for loop variable"
      else
        match ← take fuel true true true with
        | .keyword "in" =>
          let words ← readWords fuel []
          match ← take fuel false false false with
          | .newline => return .each line (String.ofList name) words (← readDo fuel)
          | .sign ";" => return .each line (String.ofList name) words (← readDo fuel)
          | token => unexpected token
        | token =>
          if token matches .sign ";" then pure () else push token
          return .each line (String.ofList name) [[.parameter "@" .plain true]] (← readDo fuel)
    | _ => broken "Bad for loop variable"

def readWords (fuel : Nat) (read : List Word) : Reader (List Word) := do
  match fuel with
  | 0 => broken "script too long"
  | fuel + 1 =>
    match ← take fuel false false false with
    | .word word => readWords fuel (word :: read)
    | token =>
      push token
      return read.reverse

def readChoose (fuel line : Nat) : Reader Command := do
  match fuel with
  | 0 => broken "script too long"
  | fuel + 1 =>
    match ← take fuel false false false with
    | .word word =>
      expect fuel "in"
      return .choose line word (← readArms fuel [])
    | token => fail s!"Syntax error: {token.name} unexpected (expecting word)"

def readArms (fuel : Nat) (read : List (List Word × Command)) : Reader (List (List Word × Command)) := do
  match fuel with
  | 0 => broken "script too long"
  | fuel + 1 =>
    match ← take fuel true false true with
    | .keyword "esac" => return read.reverse
    | token =>
      let token ← if token matches .sign "(" then take fuel false false false else pure token
      let patterns ← readPatterns fuel token []
      let body ← readList fuel .any [] true
      match ← take fuel true false true with
      | .keyword "esac" => return ((patterns, body) :: read).reverse
      | .sign ";;" => readArms fuel ((patterns, body) :: read)
      | token => unexpectedFor ";;" token

/-- Patterns up to the parenthesis behind them. -/
def readPatterns (fuel : Nat) (token : Token) (read : List Word) : Reader (List Word) := do
  match fuel with
  | 0 => broken "script too long"
  | fuel + 1 =>
    let pattern : Word :=
      match token with
      | .word word => word
      | .keyword text => [.text text.toList false]
      | _ => []
    match ← take fuel false false false with
    | .sign "|" => readPatterns fuel (← take fuel false false false) (pattern :: read)
    | .sign ")" => return (pattern :: read).reverse
    | token => unexpectedFor ")" token

def readRedirections (fuel : Nat) (read : List Redirection) : Reader (List Redirection) := do
  match fuel with
  | 0 => broken "script too long"
  | fuel + 1 =>
    match ← take fuel true true false with
    | .redirect descriptor kind dropTabs =>
      readRedirections fuel ((← readTarget fuel descriptor kind dropTabs) :: read)
    | token =>
      push token
      return read.reverse

/-- The target of a redirection. The lines of a text that follows the command are taken from behind
its line, and the command goes on without them. -/
def readTarget (fuel descriptor : Nat) (kind : Redirect) (dropTabs : Bool) : Reader Redirection := do
  match fuel with
  | 0 => broken "script too long"
  | fuel + 1 =>
    if kind = .hereText then
      let source ← get
      let (joined, text) := skipBlanks source.text
      set (source.moved joined text)
      let delimiter ← readDelimiter (text.length + 1) []
      if delimiter.isEmpty then unexpected (← take fuel false false false)
      else
        let before ← get
        let (body, source) := before.takeHereText dropTabs delimiter.text
        if delimiter.isQuoted then
          set source
          return .mk descriptor kind [.text body true]
        else
          set ({ text := body, line := before.line + 1 + before.taken, aliases := before.aliases } : Source)
          let parts ← readParts fuel .here []
          set source
          return .mk descriptor kind parts.merge
    else
      match ← take fuel false false false with
      | .word target => return .mk descriptor kind target
      | token => unexpected token

/-- Assignments, words and redirections of a simple command, in any order, or the definition of a function. -/
def readSimple (fuel line : Nat) (assignments : List (String × Word)) (words : List Word)
    (redirections : List Redirection) : Reader Command := do
  match fuel with
  | 0 => broken "script too long"
  | fuel + 1 =>
    match ← take fuel false words.isEmpty false with
    | .word word =>
      match words, assignmentOf word with
      | [], some assignment => readSimple fuel line (assignment :: assignments) words redirections
      | words, _ => readSimple fuel line assignments (word :: words) redirections
    | .redirect descriptor kind dropTabs =>
      readSimple fuel line assignments words ((← readTarget fuel descriptor kind dropTabs) :: redirections)
    | .sign "(" =>
      match words, assignments, redirections with
      | [word], [], [] =>
        match ← take fuel false false false with
        | .sign ")" =>
          match word.plain? with
          | none => broken "Bad function name"
          | some name =>
            if !isName name.toList || specialNames.contains name then broken "Bad function name"
            else
              let line := (← get).line
              let _ ← peek fuel true true true
              return .define line name (← readCommand fuel)
        | token => unexpectedFor ")" token
      | _, _, _ =>
        push (.sign "(")
        return .simple line assignments.reverse words.reverse redirections.reverse
    | token =>
      push token
      return .simple line assignments.reverse words.reverse redirections.reverse

end

end Reader

/-- A piece of a script that is carried out before the next one is read, and whether it is the last one. -/
structure Passage where
  command : Command
  isLast : Bool

/-- The commands of the next line, which stand together; none at the end of the script. -/
def Source.next (source : Source) : Except SyntaxFault (Option Passage × Source) := do
  let (command, source) ← (Reader.readList Reader.depth .line [] true).run source
  let isAtEnd := source.pushed matches some .endOfText
  match command with
  | .sequence [] => return (if isAtEnd then none else some ⟨.sequence [], false⟩, source)
  | command => return (some ⟨command, isAtEnd⟩, source)

def Source.ofText (text : String) : Source := { text := text.toList }

end BuildWatch.Shell
