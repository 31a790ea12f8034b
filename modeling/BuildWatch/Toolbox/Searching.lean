import BuildWatch.Text.Regex.Reader
import BuildWatch.Toolbox.Feed
import BuildWatch.Toolbox.Options

/-! Looking for lines that a regular expression fits. -/

namespace BuildWatch.Toolbox

open Machine

def grepTable : OptionTable :=
  { tool := "grep", letters := "EFGPe:f:ivywxcLlm:oqsbHhnA:B:C:rRaUzIZTK::D:d:", failure := 2,
    names := [("extended-regexp", 'E'), ("fixed-strings", 'F'), ("basic-regexp", 'G'), ("perl-regexp", 'P'), ("regexp", 'e'),
      ("file", 'f'), ("ignore-case", 'i'), ("invert-match", 'v'), ("word-regexp", 'w'), ("line-regexp", 'x'), ("count", 'c'),
      ("files-without-match", 'L'), ("files-with-matches", 'l'), ("max-count", 'm'), ("only-matching", 'o'), ("quiet", 'q'),
      ("silent", 'q'), ("no-messages", 's'), ("byte-offset", 'b'), ("with-filename", 'H'), ("no-filename", 'h'),
      ("line-number", 'n'), ("after-context", 'A'), ("before-context", 'B'), ("context", 'C'), ("recursive", 'r'), ("text", 'a'),
      ("color", 'K'), ("colour", 'K')] }

def grepUsage : String := "Usage: grep [OPTION]... PATTERNS [FILE]...\nTry 'grep --help' for more information.\n"

/-- What a line is looked through for. -/
structure Sought where
  /-- The expressions, of which one has to fit. -/
  regexes : List Regex
  ignoresCase : Bool := false
  wholeLines : Bool := false
  wholeWords : Bool := false
  inverted : Bool := false

namespace Sought

/-- The longest fit at a position that is as whole as it has to be. -/
def matchAt? (sought : Sought) (setting : Regex.Setting) (position : Nat) : Option Regex.Match :=
  let reaches := Regex.furthestFirst (sought.regexes.flatMap fun regex => Regex.ends setting regex { position })
  let fits (reach : Regex.Reach) : Bool :=
    let last := reach.position
    (!sought.wholeLines || (position = 0 && last = setting.text.size)) &&
      (!sought.wholeWords || (!setting.isWordBefore position && !setting.isWordAt last))
  (reaches.find? fits).map fun reach => { first := position, last := reach.position, groups := reach.groups }

def findFrom (sought : Sought) (setting : Regex.Setting) (fuel position : Nat) : Option Regex.Match :=
  match fuel with
  | 0 => none
  | fuel + 1 =>
    match sought.matchAt? setting position with
    | some found => some found
    | none => findFrom sought setting fuel (position + 1)

def setting (sought : Sought) (line : String) : Regex.Setting :=
  { text := line.toList.toArray, ignoresCase := sought.ignoresCase }

def fits (sought : Sought) (line : String) : Bool :=
  let setting := sought.setting line
  (sought.findFrom setting (setting.text.size + 1) 0).isSome != sought.inverted

/-- The parts of a line that fit and are not empty, each with its position. -/
def partsOf (sought : Sought) (setting : Regex.Setting) (fuel position : Nat) : List (Nat × String) :=
  match fuel with
  | 0 => []
  | fuel + 1 =>
    match sought.findFrom setting (setting.text.size + 1 - position) position with
    | none => []
    | some found =>
      if found.first = found.last then partsOf sought setting fuel (found.last + 1)
      else
        let part := String.ofList ((setting.text.toList.drop found.first).take (found.last - found.first))
        (found.first, part) :: partsOf sought setting fuel found.last

end Sought

/-- The text of a pattern as an expression that stands for just that text. -/
def plainRegex (text : String) : Regex := text.toList.foldl (fun regex c => .chain regex (.one (.one c))) .empty

/-- The digit class of another dialect, written as a set. -/
def withDigitClass : List Char → List Char
  | '\\' :: 'd' :: rest => "[0-9]".toList ++ withDigitClass rest
  | '\\' :: 'D' :: rest => "[^0-9]".toList ++ withDigitClass rest
  | '\\' :: c :: rest => '\\' :: c :: withDigitClass rest
  | c :: rest => c :: withDigitClass rest
  | [] => []

def regexesOf (kind : Char) (patterns : List String) : Except RegexFault (List Regex) :=
  (patterns.flatMap (·.splitOn "\n")).mapM fun pattern =>
    match kind with
    | 'F' => .ok (plainRegex pattern)
    | 'E' => Regex.ofText { extended := true, plainClosing := true } pattern
    | 'P' => Regex.ofText { extended := true, escapesInSets := true } (String.ofList (withDigitClass pattern.toList))
    | _ => Regex.ofText {} pattern

/-- How a search goes on: what has been found in a file, and what is still to be shown of the lines around. -/
structure Search where
  number : Nat := 0
  offset : Nat := 0
  count : Nat := 0
  /-- Lines that have not been shown, latest first, with their numbers and offsets. -/
  before : List (Nat × Nat × String) := []
  /-- How many lines are to be shown behind the last one found. -/
  after : Nat := 0
  lastShown : Option Nat := none
  isBinary : Bool := false

structure Grep where
  given : Given
  sought : Sought
  linesBefore : Nat
  linesAfter : Nat
  most : Option Nat
  withNames : Bool

namespace Grep

def isQuiet (grep : Grep) : Bool := grep.given.has 'q'

/-- Only which files have something in them is to be shown. -/
def onlyLists (grep : Grep) : Bool := grep.given.has 'l' || grep.given.has 'L'

def onlyCounts (grep : Grep) : Bool := grep.given.has 'c'

def label (path : String) : String := if path = "-" then "(standard input)" else path

/-- What stands in front of a line. -/
def lead (grep : Grep) (path : String) (mark : String) (number offset : Nat) : String :=
  (if grep.withNames then label path ++ mark else "") ++ (if grep.given.has 'n' then toString number ++ mark else "") ++
    if grep.given.has 'b' then toString offset ++ mark else ""

/-- The texts of a line that has been found, with the lines in front of it. -/
def shown (grep : Grep) (path line : String) (search : Search) : String :=
  if grep.given.has 'o' then
    if grep.given.has 'v' then ""
    else
      let parts := grep.sought.partsOf (grep.sought.setting line) (line.length + 2) 0
      String.join (parts.map fun (position, part) => grep.lead path ":" search.number (search.offset + position) ++ part ++ "\n")
  else
    let first := ((search.before.getLast?).map (·.1)).getD search.number
    let hasContext := 0 < grep.linesBefore || 0 < grep.linesAfter
    let gap := if hasContext && search.lastShown.any fun last => last + 1 < first then "--\n" else ""
    gap ++ String.join (search.before.reverse.map fun (number, offset, text) => grep.lead path "-" number offset ++ text ++ "\n") ++
      grep.lead path ":" search.number search.offset ++ line ++ "\n"

/-- What is said about a file in the end. -/
def summary (grep : Grep) (path : String) (count : Nat) : String :=
  let name := if grep.withNames then label path ++ ":" else ""
  if grep.isQuiet then ""
  else if grep.given.has 'L' then (if count = 0 then label path ++ "\n" else "")
  else if grep.given.has 'l' then (if 0 < count then label path ++ "\n" else "")
  else if grep.onlyCounts then name ++ toString count ++ "\n"
  else ""

/-- Looks through the lines of a file. -/
def lines (grep : Grep) (path : String) (fuel : Nat) (feed : Feed) (search : Search) (outlet : Outlet)
    (next : Search → Outlet → Program) : Program :=
  match fuel with
  | 0 => .exit 2
  | fuel + 1 =>
    let isDone := (grep.isQuiet || grep.onlyLists) && 0 < search.count
    if isDone || (grep.most.any (· ≤ search.count) && search.after = 0) then next search outlet
    else
      feed.next (fun _ _ next => next ()) Program.rounds fun line feed =>
        match line with
        | none => next search outlet
        | some line =>
          let text := line.text
          let isBinary := search.isBinary || (!grep.given.has 'a' && (line :: feed.ready).any (·.text.toList.contains '\x00'))
          let search := { search with number := search.number + 1, isBinary }
          let ahead (search : Search) : Search := { search with offset := search.offset + text.length + 1 }
          let full := grep.most.any (· ≤ search.count)
          if !full && grep.sought.fits text then
            let found := { search with count := search.count + 1, before := [], after := grep.linesAfter, lastShown := some search.number }
            if grep.isQuiet || grep.onlyLists || grep.onlyCounts then lines grep path fuel feed (ahead found) outlet next
            else if isBinary then
              if grep.given.has 'v' && grep.given.has 'o' then next found outlet
              else outlet.put s!"grep: {label path}: binary file matches\n" fun outlet => next found outlet
            else
              outlet.put (grep.shown path text search) fun outlet => lines grep path fuel feed (ahead found) outlet next
          else if 0 < search.after then
            let shown := if grep.given.has 'o' then "" else grep.lead path "-" search.number search.offset ++ text ++ "\n"
            outlet.put shown fun outlet =>
              lines grep path fuel feed (ahead { search with after := search.after - 1, lastShown := some search.number }) outlet next
          else
            let before := ((search.number, search.offset, text) :: search.before).take grep.linesBefore
            lines grep path fuel feed (ahead { search with before }) outlet next

def finish (grep : Grep) (found faulty : Bool) (outlet : Outlet) : Program :=
  outlet.flush fun _ => .exit (if faulty && !(grep.isQuiet && found) then 2 else if found then 0 else 1)

/-- Looks through files, and through the files in directories if that is asked for. -/
def files (grep : Grep) (fuel : Nat) (paths : List String) (found faulty : Bool) (outlet : Outlet) : Program :=
  match fuel with
  | 0 => .exit 2
  | fuel + 1 =>
    match paths with
    | [] => grep.finish found faulty outlet
    | path :: rest =>
      let isDeep := grep.given.has 'r' || grep.given.has 'R'
      let fault (text : String) : Program :=
        if grep.given.has 's' then files grep fuel rest found true outlet
        else outlet.flush fun outlet => complain "grep" text fun _ => files grep fuel rest found true outlet
      let look (feed : Feed) : Program :=
        lines grep path Program.rounds feed {} outlet fun search outlet =>
          let hit := if grep.given.has 'L' then search.count = 0 else 0 < search.count
          outlet.put (grep.summary path search.count) fun outlet =>
            if grep.isQuiet && hit then grep.finish true false outlet
            else
              Program.performAll (if path = "-" then [] else [.close inputDescriptor]) fun _ =>
                files grep fuel rest (found || hit) faulty outlet
      if path = "-" then look { waiting := [], current := some ("-", 0) }
      else
        .call (.openFile inputDescriptor ⟨path⟩ .read) fun
          | .failed .isDirectory =>
            if !isDeep then fault s!"{path}: Is a directory"
            else
              .call (.entries ⟨path⟩) fun
                | .names names =>
                  let front := if path.endsWith "/" then path else path ++ "/"
                  files grep fuel (names.map (front ++ ·) ++ rest) found faulty outlet
                | _ => files grep fuel rest found faulty outlet
          | .failed reason => fault s!"{path}: {reason.reason}"
          | _ => look { waiting := [], current := some (path, inputDescriptor) }

end Grep

/-- The patterns that are given, and the other arguments. -/
def patternsOf (given : Given) (next : List String → List String → Program) : Program :=
  let texts := given.values 'e'
  match given.values 'f' with
  | [] =>
    match texts, given.operands with
    | [], [] => Program.writeText 2 grepUsage fun _ => .exit 2
    | [], pattern :: rest => next [pattern] rest
    | texts, rest => next texts rest
  | paths =>
    contents "grep" paths fun read clean =>
      if clean then next (texts ++ read.flatMap textLines) given.operands else .exit 2

def grepAs (standard : Char) : Tool := fun arguments environment =>
  match grepTable.read (withContext arguments) with
  | .error fault => complain "grep" fault fun _ => Program.writeText 2 grepUsage fun _ => .exit 2
  | .ok given => start given environment
where
  /-- A number alone asks for so many lines around. -/
  withContext (arguments : List String) : List String :=
    arguments.map fun argument =>
      match argument.toList with
      | '-' :: digit :: more => if (digit :: more).all Char.isDigit then "-C" ++ String.ofList (digit :: more) else argument
      | _ => argument
  start (given : Given) : Environment → Program := fun _ =>
    let number (letter : Char) (standard : Option String) : Option Nat :=
      match (given.value? letter).orElse fun _ => standard with
      | none => some 0
      | some text => decimal? text
    match number 'A' (given.value? 'C'), number 'B' (given.value? 'C'), (given.value? 'm').map integer? with
    | none, _, _ => refuseWith 2 "grep" (((given.value? 'A').orElse fun _ => given.value? 'C').getD "" ++ ": invalid context length argument")
    | _, none, _ => refuseWith 2 "grep" (((given.value? 'B').orElse fun _ => given.value? 'C').getD "" ++ ": invalid context length argument")
    | _, _, some none => refuseWith 2 "grep" "invalid max count"
    | some linesAfter, some linesBefore, most =>
      patternsOf given fun patterns paths =>
        match regexesOf ((given.last? "EFGP").getD standard) patterns with
        | .error fault => refuseWith 2 "grep" fault.message
        | .ok regexes =>
          let sought : Sought :=
            { regexes, ignoresCase := given.has 'i' || given.has 'y', wholeLines := given.has 'x', wholeWords := given.has 'w'
              inverted := given.has 'v' }
          let isDeep := given.has 'r' || given.has 'R'
          let withNames := given.last? "hH" == some 'H' || ((1 < paths.length || isDeep) && !given.has 'h')
          let most := (most.bind id).bind fun count => if count < 0 then none else some count.toNat
          let grep : Grep := { given, sought, linesBefore, linesAfter, most, withNames }
          if paths.isEmpty && isDeep then
            .call (.entries ⟨"."⟩) fun
              | .names names => grep.files Program.rounds names false false {}
              | _ => .exit 2
          else grep.files Program.rounds (if paths.isEmpty then ["-"] else paths) false false {}

def grep : Tool := grepAs 'G'

def egrep : Tool := grepAs 'E'

def fgrep : Tool := grepAs 'F'

end BuildWatch.Toolbox
