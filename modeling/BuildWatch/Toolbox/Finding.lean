import BuildWatch.Shell.Pattern
import BuildWatch.Text.Regex.Reader
import BuildWatch.Toolbox.Files
import BuildWatch.Toolbox.Launching

/-! A program that walks through directories, asks a question of everything that it finds there, and acts on the
answers. -/

namespace BuildWatch.Toolbox

open Machine

/-- How a count is compared with a given one. -/
structure Bound where
  relation : Ordering
  count : Nat
  deriving Inhabited

def Bound.holds (bound : Bound) (count : Nat) : Bool := compare count bound.count == bound.relation

/-- A sign in front of a number asks for more or for less. -/
def Bound.ofText? (text : String) : Option Bound :=
  match text.toList with
  | '+' :: digits => (decimal? (String.ofList digits)).map fun count => ⟨.gt, count⟩
  | '-' :: digits => (decimal? (String.ofList digits)).map fun count => ⟨.lt, count⟩
  | _ => (decimal? text).map fun count => ⟨.eq, count⟩

/-- A question about a file. Some are answered by doing something. -/
inductive Query where
  | always (answer : Bool)
  | called (pattern : Shell.Pattern) (ignoresCase wholePath : Bool)
  | spelled (regex : Regex) (ignoresCase : Bool)
  | ofKind (letters : List Char)
  | isEmpty
  | sized (bound : Bound) (unit : Nat)
  | permitted (need : Nat) (sign : Option Char)
  | isRunnable
  | isNewerThan (path : String)
  | say (ending : String)
  | write (format : List Char)
  | remove
  | prune
  | quit
  | run (command : List String) (inside : Bool)
  /-- Is put aside for a command that is run in the end. -/
  | gather (number : Nat)
  | opposite (query : Query)
  | both (first second : Query)
  | either (first second : Query)
  | after (first second : Query)
  deriving Inhabited

/-- What is being looked at. -/
structure Site where
  path : String
  /-- The path that the walk began with. -/
  start : String
  depth : Nat
  kind : FileKind

namespace Site

def name (site : Site) : String := String.ofList (lastName site.path.toList)

def size (site : Site) : Nat :=
  match site.kind with
  | .directory => 4096
  | .file size _ => size
  | .device => 0

def letter (site : Site) : Char :=
  match site.kind with
  | .directory => 'd'
  | .file _ _ => 'f'
  | .device => 'c'

def mode (site : Site) : Nat :=
  match site.kind with
  | .directory => 493
  | .file _ allowed => if allowed then 493 else 420
  | .device => 438

/-- The path as it is seen from where the walk began. -/
def below (site : Site) : String :=
  String.ofList ((site.path.toList.drop site.start.length).dropWhile (· = '/'))

/-- The path without its last name. -/
def front (site : Site) : String :=
  let path := site.path.toList
  let front := (path.reverse.dropWhile (· != '/')).reverse
  if front.isEmpty then "." else if front.length = 1 then "" else String.ofList front.dropLast

def octal (value : Nat) : String := String.ofList (Nat.toDigits 8 value)

def directive (site : Site) : Char → String
  | 'p' => site.path
  | 'f' => site.name
  | 'h' => site.front
  | 'P' => site.below
  | 'H' => site.start
  | 'd' => toString site.depth
  | 'y' => String.singleton site.letter
  | 's' => toString site.size
  | 'm' => octal site.mode
  | 'u' => "root"
  | 'g' => "root"
  | 'U' => "0"
  | 'G' => "0"
  | 'n' => "1"
  | 'l' => ""
  | '%' => "%"
  | c => String.ofList ['%', c]

/-- The text of a format, and whether output goes on behind it. -/
def formatted (site : Site) (fuel : Nat) (text : List Char) : List Char :=
  match fuel, text with
  | 0, _ => []
  | _, [] => []
  | fuel + 1, '%' :: c :: rest => (site.directive c).toList ++ formatted site fuel rest
  | fuel + 1, '\\' :: c :: rest =>
    if Ascii.isOctal c then
      let digits := ((c :: rest).take 3).takeWhile Ascii.isOctal
      Char.ofNat (Ascii.number 8 digits % 256) :: formatted site fuel ((c :: rest).drop digits.length)
    else if c = 'c' then []
    else
      match c with
      | 'n' => '\n' :: formatted site fuel rest
      | 't' => '\t' :: formatted site fuel rest
      | 'r' => '\r' :: formatted site fuel rest
      | 'a' => '\x07' :: formatted site fuel rest
      | 'b' => '\x08' :: formatted site fuel rest
      | 'f' => '\x0c' :: formatted site fuel rest
      | 'v' => '\x0b' :: formatted site fuel rest
      | '\\' => '\\' :: formatted site fuel rest
      | c => '\\' :: c :: formatted site fuel rest
  | fuel + 1, c :: rest => c :: formatted site fuel rest

end Site

/-- How far a walk has come. -/
structure Hunt where
  code : Nat := 0
  stopped : Bool := false
  /-- What is in the directory that is being looked at does not count. -/
  pruned : Bool := false
  /-- Commands that are run in the end, with the paths put aside for them, last one first. -/
  gathered : List (List String × List String) := []
  deriving Inhabited

namespace Hunt

def fail (hunt : Hunt) : Hunt := { hunt with code := 1 }

def put (number : Nat) (path : String) (hunt : Hunt) : Hunt :=
  { hunt with
    gathered := hunt.gathered.zipIdx.map fun ((command, paths), index) =>
      (command, if index = number then path :: paths else paths) }

end Hunt

namespace Query

/-- Runs a command, and answers whether it ended well. -/
def launch (place : Option String) (command : List String) (environment : Environment) (next : Bool → Program) : Program :=
  let body : Program := becomeOr "find" quoted command environment
  let child : Program :=
    match place with
    | none => body
    | some place => Program.perform (.enter ⟨place⟩) fun _ => body
  .fork child fun number =>
    .call (.wait number) fun
      | .status (.code code) => next (code = 0)
      | _ => next false

def filled (path : String) (text : String) : String := path.intercalate (text.splitOn "\x7b\x7d")

def holdsPermission (mode need : Nat) : Option Char → Bool
  | none => mode = need
  | some '-' => (mode &&& need) = need
  | some _ => need = 0 || (mode &&& need) != 0

/-- The answer for a file. -/
def check (environment : Environment) (site : Site) : Query → Hunt → (Bool → Hunt → Program) → Program
  | always answer, hunt, next => next answer hunt
  | called pattern ignoresCase wholePath, hunt, next =>
    let text := (if wholePath then site.path else site.name).toList
    next (pattern.fits (if ignoresCase then text.map Char.toLower else text)) hunt
  | spelled regex ignoresCase, hunt, next =>
    let text := site.path.toList.toArray
    let found := Regex.matchAt? { text, ignoresCase } (.chain regex (.anchor .textEnd)) 0
    next found.isSome hunt
  | ofKind letters, hunt, next => next (letters.contains site.letter) hunt
  | isEmpty, hunt, next =>
    match site.kind with
    | .directory =>
      .call (.entries ⟨site.path⟩) fun
        | .names names => next names.isEmpty hunt
        | _ => next false hunt
    | .file size _ => next (size = 0) hunt
    | .device => next false hunt
  | sized bound unit, hunt, next => next (bound.holds ((site.size + unit - 1) / unit)) hunt
  | permitted need sign, hunt, next => next (holdsPermission site.mode need sign) hunt
  | isRunnable, hunt, next => next (site.mode = 493) hunt
  | isNewerThan path, hunt, next => .call (.inspect ⟨path⟩) fun _ => next false hunt
  | say ending, hunt, next => writeAll "find" (ByteText.toBytes (site.path ++ ending)) fun _ => next true hunt
  | write format, hunt, next =>
    writeAll "find" (ByteText.toBytes (String.ofList (site.formatted (format.length + 1) format))) fun _ => next true hunt
  | remove, hunt, next =>
    if site.path = "." then next true hunt
    else
      let removed : Program := Program.perform (.remove ⟨site.path⟩) fun _ => next true hunt
      match site.kind with
      | .directory =>
        .call (.entries ⟨site.path⟩) fun
          | .names [] => removed
          | _ => complain "find" s!"cannot delete '{site.path}': Directory not empty" fun _ => next false hunt.fail
      | _ => removed
  | prune, hunt, next => next true { hunt with pruned := true }
  | quit, hunt, next => next true { hunt with stopped := true }
  | run command inside, hunt, next =>
    let path := if inside then "./" ++ site.name else site.path
    launch (if inside then some site.front else none) (command.map (filled path)) environment fun fine => next fine hunt
  | gather number, hunt, next => next true (hunt.put number site.path)
  | opposite query, hunt, next => query.check environment site hunt fun answer hunt => next (!answer) hunt
  | both first second, hunt, next =>
    first.check environment site hunt fun answer hunt =>
      if answer && !hunt.stopped then second.check environment site hunt next else next false hunt
  | either first second, hunt, next =>
    first.check environment site hunt fun answer hunt =>
      if answer || hunt.stopped then next true hunt else second.check environment site hunt next
  | after first second, hunt, next =>
    first.check environment site hunt fun _ hunt => if hunt.stopped then next true hunt else second.check environment site hunt next

end Query

/-- What a walk is asked for. -/
structure HuntPlan where
  query : Query := .always true
  least : Nat := 0
  most : Option Nat := none
  /-- A directory comes behind what is in it. -/
  insideFirst : Bool := false
  /-- Something is done with what is found. -/
  acts : Bool := false
  commands : List (List String) := []
  deriving Inhabited

namespace HuntPlan

def visitEach (visit : String → Hunt → (Hunt → Program) → Program) : List String → Hunt → (Hunt → Program) → Program
  | [], hunt, next => next hunt
  | path :: rest, hunt, next => if hunt.stopped then next hunt else visit path hunt fun hunt => visitEach visit rest hunt next

def walk (search : HuntPlan) (environment : Environment) (start : String) (fuel depth : Nat) (path : String) (hunt : Hunt)
    (next : Hunt → Program) : Program :=
  match fuel with
  | 0 => next hunt
  | fuel + 1 =>
    .call (.inspect ⟨path⟩) fun
      | .failed fault => complain "find" s!"'{path}': {fault.reason}" fun _ => next hunt.fail
      | .kind kind =>
        let check (hunt : Hunt) (next : Hunt → Program) : Program :=
          if depth < search.least || hunt.stopped then next hunt
          else search.query.check environment { path, start, depth, kind } hunt fun _ hunt => next hunt
        let descend (hunt : Hunt) (next : Hunt → Program) : Program :=
          if kind != .directory || hunt.stopped || hunt.pruned || search.most.any (· ≤ depth) then next hunt
          else
            .call (.entries ⟨path⟩) fun
              | .names names =>
                let front := if path.endsWith "/" then path else path ++ "/"
                visitEach (search.walk environment start fuel (depth + 1)) (names.map (front ++ ·)) hunt next
              | _ => next hunt
        let hunt := { hunt with pruned := false }
        let done (hunt : Hunt) : Program := next { hunt with pruned := false }
        if search.insideFirst then descend hunt fun hunt => check hunt done else check hunt fun hunt => descend hunt done
      | _ => next hunt

/-- Runs the commands that were put off. -/
def finish (environment : Environment) : List (List String × List String) → Nat → Program
  | [], code => .exit code
  | (_, []) :: rest, code => finish environment rest code
  | (command, paths) :: rest, code =>
    Query.launch none (command ++ paths.reverse) environment fun fine => finish environment rest (if fine then code else 1)

def run (search : HuntPlan) (environment : Environment) (paths : List String) : Program :=
  let start : Hunt := { gathered := search.commands.map fun command => (command, []) }
  visitEach (fun path => search.walk environment path 1000 0 path) paths start fun hunt =>
    finish environment hunt.gathered hunt.code

end HuntPlan

/-- The arguments that are left, and what has been read of a search. -/
structure HuntReading where
  rest : List String
  search : HuntPlan := {}
  /-- The word before takes a pattern. -/
  afterPattern : Bool := false

namespace HuntReading

abbrev Step : Type := HuntReading → Except String (Query × HuntReading)

/-- A word as it is named in a complaint. -/
def cited (text : String) : String := String.singleton '\x60' ++ text ++ "'"

def missing (word : String) : String := "missing argument to " ++ cited word

/-- The words of a command up to its end, and whether it takes all paths at once. -/
def commandOf? : List String → List String → Option (List String × Bool × List String)
  | [], _ => none
  | ";" :: rest, held => if held.isEmpty then none else some (held.reverse, false, rest)
  | "+" :: rest, held =>
    if held.head? == some "\x7b\x7d" && 1 < held.length then some (held.tail.reverse, true, rest) else commandOf? rest ("+" :: held)
  | word :: rest, held => commandOf? rest (word :: held)

/-- The unit that a letter behind a size stands for. -/
def unitOf? (text : String) : Option (String × Nat) :=
  match text.toList.reverse with
  | [] => none
  | c :: front =>
    let digits := String.ofList front.reverse
    match c with
    | 'c' => some (digits, 1)
    | 'w' => some (digits, 2)
    | 'b' => some (digits, 512)
    | 'k' => some (digits, 1024)
    | 'M' => some (digits, 1048576)
    | 'G' => some (digits, 1073741824)
    | c => if c.isDigit then some (text, 512) else none

def patternOf (ignoresCase : Bool) (text : String) : Shell.Pattern :=
  .ofChars (text.toList.map fun c => (if ignoresCase then c.toLower else c, false))

/-- The bits that a mode in letters or digits asks for. -/
def permission? (text : String) : Option Query :=
  let (sign, body) : Option Char × List Char :=
    match text.toList with
    | '-' :: rest => (some '-', rest)
    | '/' :: rest => (some '/', rest)
    | rest => (none, rest)
  if !body.isEmpty && body.all Ascii.isOctal then some (.permitted (Ascii.number 8 body) sign)
  else
    let bits := ((String.ofList body).splitOn ",").map fun clause =>
      let who := clause.toList.takeWhile fun c => "ugoa".toList.contains c
      let letters := (clause.toList.drop who.length).drop 1
      let value := (if letters.contains 'r' then 4 else 0) + (if letters.contains 'w' then 2 else 0) + (if letters.contains 'x' then 1 else 0)
      let concerns (c : Char) : Bool := who.isEmpty || who.contains c || who.contains 'a'
      (if concerns 'u' then value * 64 else 0) + (if concerns 'g' then value * 8 else 0) + (if concerns 'o' then value else 0)
    some (.permitted (bits.foldl (· ||| ·) 0) sign)

/-- A question that takes an argument. -/
def withArgument (word argument : String) (search : HuntPlan) : Option (Except String (Query × HuntPlan)) :=
  let ask (query : Query) : Option (Except String (Query × HuntPlan)) := some (.ok (query, search))
  let act (query : Query) : Option (Except String (Query × HuntPlan)) := some (.ok (query, { search with acts := true }))
  let depth (set : Nat → HuntPlan) : Option (Except String (Query × HuntPlan)) :=
    match decimal? argument with
    | some count => some (.ok (.always true, set count))
    | none => some (.error s!"Expected a positive decimal integer argument to {word}, but got '{argument}'")
  let age : Option (Except String (Query × HuntPlan)) :=
    match Bound.ofText? argument with
    | some bound => ask (.always (bound.holds 0))
    | none => some (.error ("invalid argument " ++ cited argument ++ " to " ++ cited word))
  let spelled (ignoresCase : Bool) : Option (Except String (Query × HuntPlan)) :=
    match Regex.ofText { plainClosing := true } argument with
    | .ok regex => ask (.spelled regex ignoresCase)
    | .error fault => some (.error fault.message)
  match word with
  | "-name" => ask (.called (patternOf false argument) false false)
  | "-iname" => ask (.called (patternOf true argument) true false)
  | "-path" => ask (.called (patternOf false argument) false true)
  | "-wholename" => ask (.called (patternOf false argument) false true)
  | "-ipath" => ask (.called (patternOf true argument) true true)
  | "-iwholename" => ask (.called (patternOf true argument) true true)
  | "-regex" => spelled false
  | "-iregex" => spelled true
  | "-regextype" => ask (.always true)
  | "-maxdepth" => depth fun count => { search with most := some count }
  | "-mindepth" => depth fun count => { search with least := count }
  | "-type" =>
    let letters := argument.splitOn ","
    match letters.find? fun text => text.length != 1 || !"bcdpflsD".toList.contains (text.toList.headD ' ') with
    | none => ask (.ofKind (letters.map fun text => text.toList.headD ' '))
    | some "" => some (.error "Arguments to -type should contain at least one letter")
    | some text =>
      if 1 < text.length then some (.error "Must separate multiple arguments to -type using: ','")
      else some (.error s!"Unknown argument to -type: {text}")
  | "-xtype" => ask (.ofKind (argument.toList.take 1))
  | "-size" =>
    match (unitOf? argument).bind fun (digits, unit) => (Bound.ofText? digits).map fun bound => Query.sized bound unit with
    | some query => ask query
    | none => some (.error ("invalid -size type " ++ cited (String.ofList (argument.toList.reverse.take 1))))
  | "-perm" =>
    match permission? argument with
    | some query => ask query
    | none => some (.error ("invalid mode " ++ cited argument))
  | "-mtime" => age
  | "-atime" => age
  | "-ctime" => age
  | "-mmin" => age
  | "-amin" => age
  | "-cmin" => age
  | "-newer" => ask (.isNewerThan argument)
  | "-anewer" => ask (.isNewerThan argument)
  | "-cnewer" => ask (.isNewerThan argument)
  | "-links" =>
    match Bound.ofText? argument with
    | some bound => ask (.always (bound.holds 1))
    | none => some (.error ("invalid argument " ++ cited argument ++ " to " ++ cited word))
  | "-user" => ask (.always (argument = "root" || argument = "0"))
  | "-group" => ask (.always (argument = "root" || argument = "0"))
  | "-uid" => ask (.always (argument = "0"))
  | "-gid" => ask (.always (argument = "0"))
  | "-lname" => ask (.always false)
  | "-printf" => act (.write argument.toList)
  | _ => none

/-- A question without arguments. -/
def alone? (word : String) (search : HuntPlan) : Option (Query × HuntPlan) :=
  let ask (query : Query) : Option (Query × HuntPlan) := some (query, search)
  let act (query : Query) : Option (Query × HuntPlan) := some (query, { search with acts := true })
  match word with
  | "-true" => ask (.always true)
  | "-false" => ask (.always false)
  | "-empty" => ask .isEmpty
  | "-executable" => ask .isRunnable
  | "-readable" => ask (.always true)
  | "-writable" => ask (.always true)
  | "-nouser" => ask (.always false)
  | "-nogroup" => ask (.always false)
  | "-prune" => ask .prune
  | "-print" => act (.say "\n")
  | "-print0" => act (.say "\x00")
  | "-ls" => act (.say "\n")
  | "-quit" => act .quit
  | "-delete" => some (.remove, { search with acts := true, insideFirst := true })
  | "-depth" => some (.always true, { search with insideFirst := true })
  | "-d" => some (.always true, { search with insideFirst := true })
  | _ => if ["-xdev", "-mount", "-follow", "-noleaf", "-daystart", "-warn", "-nowarn"].contains word then ask (.always true) else none

def isPatternWord (word : String) : Bool := ["-name", "-iname", "-path", "-wholename", "-ipath", "-iwholename"].contains word

/-- A question that is one word, with what belongs to it. -/
def readWord (word : String) : Step := fun reading =>
  match alone? word reading.search with
  | some (query, search) => .ok (query, { reading with search, afterPattern := false })
  | none =>
    if word = "-exec" || word = "-execdir" || word = "-ok" || word = "-okdir" then
      match commandOf? reading.rest [] with
      | none => .error (missing word)
      | some (command, atOnce, rest) =>
        let search := { reading.search with acts := true }
        if atOnce then
          .ok (.gather search.commands.length,
            { reading with rest, search := { search with commands := search.commands ++ [command] }, afterPattern := false })
        else .ok (.run command (word = "-execdir"), { reading with rest, search, afterPattern := false })
    else
      match withArgument word (reading.rest.headD "") reading.search with
      | none =>
        if word.startsWith "-" && word != "-" then .error ("unknown predicate " ++ cited word)
        else
          let advice := if reading.afterPattern then "\nfind: possible unquoted pattern after predicate " ++ cited "-name" ++ "?" else ""
          .error ("paths must precede expression: " ++ cited word ++ advice)
      | some result =>
        match reading.rest with
        | [] => .error (missing word)
        | _ :: rest => result.map fun (query, search) => (query, { rest, search, afterPattern := isPatternWord word })

mutual

/-- Parts with commas between them, of which the last one answers. -/
def readList (fuel : Nat) : Step := fun reading =>
  match fuel with
  | 0 => .error "expression too long"
  | fuel + 1 => do
    let (first, reading) ← readEither fuel reading
    match reading.rest with
    | "," :: rest => do
      if rest.isEmpty then throw "expected an expression after ','"
      let (second, reading) ← readList fuel { reading with rest }
      return (.after first second, reading)
    | _ => return (first, reading)

def readEither (fuel : Nat) : Step := fun reading =>
  match fuel with
  | 0 => .error "expression too long"
  | fuel + 1 => do
    let (first, reading) ← readBoth fuel reading
    match reading.rest with
    | word :: rest =>
      if word = "-o" || word = "-or" then do
        if rest.isEmpty then throw s!"expected an expression after '{word}'"
        let (second, reading) ← readEither fuel { reading with rest }
        return (.either first second, reading)
      else return (first, reading)
    | [] => return (first, reading)

def readBoth (fuel : Nat) : Step := fun reading =>
  match fuel with
  | 0 => .error "expression too long"
  | fuel + 1 => do
    let (first, reading) ← readOne fuel reading
    match reading.rest with
    | [] => return (first, reading)
    | word :: rest =>
      if ["-o", "-or", ",", ")"].contains word then return (first, reading)
      else do
        let isAnd := word = "-a" || word = "-and"
        if isAnd && rest.isEmpty then throw s!"expected an expression after '{word}'"
        let (second, reading) ← readBoth fuel { reading with rest := if isAnd then rest else word :: rest }
        return (.both first second, reading)

def readOne (fuel : Nat) : Step := fun reading =>
  match fuel with
  | 0 => .error "expression too long"
  | fuel + 1 =>
    match reading.rest with
    | [] => .error "invalid expression"
    | word :: rest =>
      if word = "!" || word = "-not" then
        if rest.isEmpty then .error s!"expected an expression after '{word}'"
        else do
          let (query, reading) ← readOne fuel { reading with rest }
          return (.opposite query, reading)
      else if word = "(" then
        if rest.head? == some ")" then .error "invalid expression; empty parentheses are not allowed."
        else do
          let (query, reading) ← readList fuel { reading with rest }
          match reading.rest with
          | ")" :: rest => return (query, { reading with rest })
          | _ => throw "invalid expression; I was expecting to find a ')' somewhere but did not see one."
      else if ["-o", "-or", "-a", "-and", ","].contains word then
        .error s!"invalid expression; you have used a binary operator '{word}' with nothing before it."
      else if word = ")" then .error "invalid expression; you have too many ')'"
      else readWord word { reading with rest }

end

/-- The search that words ask for. Where nothing is done with what is found, it is shown. -/
def read (words : List String) : Except String HuntPlan := do
  if words.isEmpty then return { query := .say "\n" }
  let (query, reading) ← readList (6 * words.length + 8) { rest := words }
  if !reading.rest.isEmpty then throw "you have too many ')'"
  let search := reading.search
  return { search with query := if search.acts then query else .both query (.say "\n") }

end HuntReading

/-- The first word of a question, behind paths. -/
def beginsQuery (word : String) : Bool := (word.startsWith "-" && 1 < word.length) || word = "(" || word = "!"

def find : Tool := fun arguments environment =>
  let arguments := arguments.dropWhile fun word => ["-H", "-L", "-P", "-O0", "-O1", "-O2", "-O3"].contains word
  let paths := arguments.takeWhile fun word => !beginsQuery word
  match HuntReading.read (arguments.drop paths.length) with
  | .error fault => refuse "find" fault
  | .ok search => search.run environment (if paths.isEmpty then ["."] else paths)

end BuildWatch.Toolbox
