import BuildWatch.Toolbox.Launching

/-! A program that runs another one on what comes in, a batch of arguments at a time. -/

namespace BuildWatch.Toolbox

open Machine

/-- How arguments are put together. -/
structure Batching where
  command : List String
  environment : Environment := []
  /-- At most so many arguments in a batch. -/
  perCommand : Option Nat := none
  /-- At most so many lines in a batch. -/
  perLines : Option Nat := none
  /-- Each line takes the place of this mark in the command. -/
  mark : Option String := none
  /-- Stands between arguments. Without one they are words, and may be quoted. -/
  separator : Option Char := none
  /-- Ends the input when it comes as an argument. -/
  endMark : Option String := none
  sizeLimit : Nat := 131072
  /-- A batch that is too big ends everything. -/
  isStrict : Bool := false
  skipsEmpty : Bool := false
  isShown : Bool := false
  inParallel : Nat := 1

/-- An argument, and whether a line ends with it. -/
structure Word where
  text : String
  endsLine : Bool := false
  deriving Inhabited

namespace Word

inductive Mode where
  | outside
  | inside
  | quoted (mark : Char)
  | escaped

/-- Words between blanks, or lines if those are wanted. A quote that does not end in its line is a fault. -/
def read (byLines : Bool) (held : List Char) (isWord : Bool) (before : Char) : Mode → List Char → List Word × Option Char
  | mode, [] =>
    match mode with
    | .quoted mark => ([], some mark)
    | _ => (if held.isEmpty then [] else [⟨String.ofList held.reverse, true⟩], none)
  | .outside, c :: rest =>
    if Ascii.isSpace c then read byLines [] false c .outside rest
    else if c = '\'' || c = '"' then read byLines [] true c (.quoted c) rest
    else if c = '\\' then read byLines [] true c .escaped rest
    else read byLines [c] true c .inside rest
  | .inside, c :: rest =>
    if c = '\n' then
      if held.isEmpty && !isWord then read byLines [] false c .outside rest
      else
        let (words, fault) := read byLines [] false c .outside rest
        (⟨String.ofList held.reverse, !(before = ' ' || before = '\t')⟩ :: words, fault)
    else if !byLines && (c = ' ' || c = '\t') then
      let behind := rest.dropWhile fun c => c = ' ' || c = '\t'
      let (words, fault) := read byLines [] false c .outside rest
      (⟨String.ofList held.reverse, behind.isEmpty⟩ :: words, fault)
    else if c = '\'' || c = '"' then read byLines held true c (.quoted c) rest
    else if c = '\\' then read byLines held true c .escaped rest
    else read byLines (c :: held) true c .inside rest
  | .quoted mark, c :: rest =>
    if c = '\n' then ([], some mark)
    else if c = mark then read byLines held true c .inside rest
    else read byLines (c :: held) true c (.quoted mark) rest
  | .escaped, c :: rest => read byLines (c :: held) true c .inside rest

end Word

namespace Batching

def words (batching : Batching) (input : List Char) : List Word × Option Char :=
  match batching.separator with
  | none => Word.read batching.mark.isSome [] false '\n' .outside input
  | some separator =>
    let pieces := input.splitOn separator
    let pieces := if pieces.getLast? == some [] then pieces.dropLast else pieces
    (pieces.map fun text => ⟨String.ofList text, true⟩, none)

def sizeOf (arguments : List String) : Nat := arguments.foldl (fun size text => size + text.length + 1) 0

/-- A batch that is being filled, last word first, with its lines and its size. -/
structure Filling where
  held : List String := []
  lines : Nat := 0
  size : Nat

/-- The batches of some words. A word that is too big for any batch ends them. -/
def batches (batching : Batching) (filling : Filling) : List Word → List (List String) × Bool
  | [] => (if filling.held.isEmpty then [] else [filling.held.reverse], true)
  | word :: rest =>
    let size := word.text.length + 1
    let empty : Filling := { size := sizeOf batching.command }
    let isFull := batching.sizeLimit < filling.size + size
    if isFull && (filling.held.isEmpty || batching.isStrict) then ([], false)
    else
      let (closed, filling) := if isFull then ([filling.held.reverse], empty) else ([], filling)
      let filling : Filling :=
        { held := word.text :: filling.held, lines := filling.lines + (if word.endsLine then 1 else 0), size := filling.size + size }
      let isDone := batching.perCommand.any (· ≤ filling.held.length) || batching.perLines.any (· ≤ filling.lines)
      let (closed, filling) := if isDone then (closed ++ [filling.held.reverse], empty) else (closed, filling)
      let (later, fits) := batches batching filling rest
      (closed ++ later, fits)

def replaced (mark word : String) (text : String) : String := word.intercalate (text.splitOn mark)

/-- An argument as it is shown. -/
def shownArgument (text : String) : String :=
  let isPlain (c : Char) : Bool := c.isAlphanum || "%+,-./:=@_^".toList.contains c
  if !text.isEmpty && text.all isPlain then text else "'" ++ "'\\''".intercalate (text.splitOn "'") ++ "'"

/-- What came of a command, which may end everything. -/
def judge (name : String) (status : Reply) (next : Bool → Program) : Program :=
  match status with
  | .status (.code 0) => next true
  | .status (.code 255) => refuseWith 124 "xargs" s!"{name}: exited with status 255; aborting"
  | .status (.code code) => if code = 126 || code = 127 then .exit code else next false
  | .status (.signal signal) => refuseWith 125 "xargs" s!"{name}: terminated by signal {signal}"
  | _ => next false

def awaitAll (name : String) : List Nat → Bool → (Bool → Program) → Program
  | [], clean, next => next clean
  | child :: rest, clean, next => .call (.wait child) fun status => judge name status fun fine => awaitAll name rest (clean && fine) next

/-- Runs the commands in turn. When there are enough of them at once, the first one is waited for. -/
def run (batching : Batching) (running : List Nat) (clean : Bool) (next : Bool → Program) : List (List String) → Program
  | [] => awaitAll (batching.command.headD "") running clean next
  | command :: rest =>
    let shown := if batching.isShown then " ".intercalate (command.map shownArgument) ++ "\n" else ""
    Program.writeText 2 shown fun _ =>
      let launch : Program :=
        .call (.openFile 0 ⟨"/dev/null"⟩ .read) fun _ => becomeOr "xargs" (fun name => name) command batching.environment
      .fork launch fun child =>
        let running := running ++ [child]
        if running.length < batching.inParallel || batching.inParallel = 0 then run batching running clean next rest
        else
          awaitAll (command.headD "") (running.take 1) clean fun clean => run batching (running.drop 1) clean next rest

/-- What stands for a character: itself, or an escape. -/
def separator? (text : String) : Option Char :=
  match text.toList with
  | [c] => some c
  | ['\\', 'n'] => some '\n'
  | ['\\', 't'] => some '\t'
  | ['\\', 'r'] => some '\r'
  | ['\\', '0'] => some '\x00'
  | ['\\', 'a'] => some '\x07'
  | ['\\', 'b'] => some '\x08'
  | ['\\', 'f'] => some '\x0c'
  | ['\\', 'v'] => some '\x0b'
  | ['\\', '\\'] => some '\\'
  | '\\' :: 'x' :: digits => if !digits.isEmpty && digits.all Ascii.isHexDigit then some (Char.ofNat (Ascii.number 16 digits % 256)) else none
  | '\\' :: digits => if !digits.isEmpty && digits.all Ascii.isOctal then some (Char.ofNat (Ascii.number 8 digits % 256)) else none
  | _ => none

def commands (batching : Batching) (words : List Word) : List (List String) × Bool :=
  match batching.mark with
  | some mark =>
    (words.map fun word =>
      match batching.command with
      | [] => [word.text]
      | name :: arguments => name :: arguments.map (replaced mark word.text), true)
  | none =>
    let (batches, fits) := batching.batches { size := sizeOf batching.command } words
    let batches := if batches.isEmpty && !batching.skipsEmpty && fits then [[]] else batches
    (batches.map (batching.command ++ ·), fits)

def runOn (batching : Batching) (input : List UInt8) : Program :=
  let (words, fault) := batching.words (ByteText.ofBytes input).toList
  let words :=
    match batching.endMark with
    | some mark => words.takeWhile (·.text != mark)
    | none => words
  let (commands, fits) := batching.commands words
  let commands := if fault.isSome && words.isEmpty then [] else commands
  batching.run [] true (fun clean =>
    match fault, fits with
    | some mark, _ =>
      let kind := if mark = '"' then "double" else "single"
      refuse "xargs" s!"unmatched {kind} quote; by default quotes are special to xargs unless you use the -0 option"
    | none, false => refuse "xargs" "cannot fit single argument within argument list size limit"
    | none, true => .exit (if clean then 0 else 123)) commands

end Batching

def xargsTable : OptionTable :=
  { tool := "xargs", letters := "0a:d:E:e::i::I:l::L:n:oP:prs:tx", inOrder := true,
    names := [("null", '0'), ("arg-file", 'a'), ("delimiter", 'd'), ("eof", 'e'), ("replace", 'i'), ("max-lines", 'l'),
      ("max-args", 'n'), ("open-tty", 'o'), ("max-procs", 'P'), ("interactive", 'p'), ("no-run-if-empty", 'r'),
      ("max-chars", 's'), ("verbose", 't'), ("exit", 'x')] }

/-- The first option whose argument is no number that it can take. -/
def wrongCount? (given : Given) : Option String :=
  given.options.findSome? fun (letter, text) =>
    if !"lLnPs".toList.contains letter || (letter = 'l' && text.isEmpty) then none
    else
      match decimal? text with
      | none => some s!"invalid number \"{text}\" for -{letter} option"
      | some 0 => if letter = 'P' then none else some s!"value 0 for -{letter} option should be >= 1"
      | some _ => none

def xargs : Tool := withOptions xargsTable fun given environment =>
  let count (letter : Char) : Option Nat := (given.value? letter).bind decimal?
  let separators := given.options.filterMap fun (letter, text) =>
    if letter = '0' then some (some '\x00') else if letter = 'd' then some (Batching.separator? text) else none
  let mode := given.last? "iIlLn"
  let mark := if mode = some 'I' then given.value? 'I' else if mode = some 'i' then given.value? 'i' else none
  let mark := mark.map fun text => if text.isEmpty then "\x7b\x7d" else text
  let mark :=
    match mode, given.has 'I' || given.has 'i', count 'n' with
    | some 'n', true, some 1 => (given.value? 'I').orElse fun _ => some "\x7b\x7d"
    | _, _, _ => mark
  let batching : Batching :=
    { command := if given.operands.isEmpty then ["echo"] else given.operands
      environment
      mark
      perCommand := if mark.isSome then none else count 'n'
      perLines := if mode = some 'L' then count 'L' else if mode = some 'l' then some ((count 'l').getD 1) else none
      separator := separators.getLast?.join
      endMark := (((given.value? 'E').orElse fun _ => given.value? 'e').filter (!·.isEmpty))
      sizeLimit := min ((count 's').getD 131072) 131072
      isStrict := given.has 'x' && !given.has 'n'
      skipsEmpty := given.has 'r'
      isShown := given.has 't' || given.has 'p'
      inParallel := (count 'P').getD 1 }
  match wrongCount? given, separators.getLast?, given.value? 'a' with
  | some fault, _, _ => misuse 1 "xargs" fault
  | _, some none, _ =>
    let text := (given.value? 'd').getD ""
    refuse "xargs"
      s!"Invalid input delimiter specification {text}: the delimiter must be either a single character or an escape sequence starting with \\."
  | _, _, some path =>
    .call (.openFile inputDescriptor ⟨path⟩ .read) fun
      | .failed fault => refuse "xargs" s!"Cannot open input file '{path}': {fault.reason}"
      | _ => Program.readAll inputDescriptor fun input => Program.perform (.close inputDescriptor) fun _ => batching.runOn input
  | _, _, none => Program.readAll 0 batching.runOn

end BuildWatch.Toolbox
