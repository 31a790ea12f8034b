import BuildWatch.Toolbox.Editing.Reader
import BuildWatch.Toolbox.Feed
import BuildWatch.Toolbox.Options

/-! A program that changes a text line by line, as a script says. -/

namespace BuildWatch.Toolbox

open Machine

namespace Editing

/-- What stays the same while a script is carried out. -/
structure Setting where
  script : Script
  isSilent : Bool := false
  separator : Char := '\n'
  width : Nat := 70
  /-- Each file is a text of its own, and is replaced by what comes of it. -/
  inPlace : Option String := none
  /-- The files that lines are written to, with their descriptors. -/
  outputs : List (String × Nat) := []
  deriving Inhabited

/-- Whether a command is between its two addresses, and up to which line, if that is known. -/
inductive Range where
  | outside
  | inside (last : Option Nat)
  deriving Inhabited

/-- What comes behind the line that is being changed. -/
inductive Queued where
  | text (text : String)
  | file (path : String)
  deriving Inhabited

structure Editor where
  feed : Feed
  number : Nat := 0
  space : List Char := []
  /-- The line ended with a separator. -/
  ended : Bool := true
  source : String := "-"
  hold : List Char := []
  replaced : Bool := false
  ranges : Array Range := #[]
  /-- Latest first. -/
  queue : List Queued := []
  outlet : Outlet := {}
  /-- The last line that was shown did not end. -/
  isOpen : Bool := false
  /-- The expression that was used last. -/
  latest : Sought := {}
  /-- The lines that are left of files which are read line by line. -/
  readers : List (String × List String) := []

abbrev Next : Type := Editor → Program

namespace Editor

/-- Shows a text; where files are replaced it is kept until the file is done. -/
def put (setting : Setting) (text : String) (ended : Bool) (editor : Editor) (next : Next) : Program :=
  let text := (if editor.isOpen then "\n" else "") ++ text ++ (if ended then String.singleton setting.separator else "")
  let editor := { editor with isOpen := !ended }
  if setting.inPlace.isSome then
    next { editor with outlet := { editor.outlet with held := text :: editor.outlet.held } }
  else editor.outlet.put text fun outlet => next { editor with outlet }

/-- Shows a text that is as it should be. -/
def putRaw (setting : Setting) (text : String) (editor : Editor) (next : Next) : Program :=
  if text.isEmpty then next editor
  else
    let body := if text.endsWith "\n" then String.ofList text.toList.dropLast else text
    let text := (if editor.isOpen then "\n" else "") ++ body ++ (if text.endsWith "\n" then "\n" else "")
    let editor := { editor with isOpen := false }
    if setting.inPlace.isSome then
      next { editor with outlet := { editor.outlet with held := text :: editor.outlet.held } }
    else editor.outlet.put text fun outlet => next { editor with outlet }

def spaceText (editor : Editor) : String := String.ofList editor.space

def display (setting : Setting) (editor : Editor) (next : Next) : Program :=
  editor.put setting editor.spaceText editor.ended next

/-- What stands in front of the first line feed. -/
def firstLine (editor : Editor) : List Char := editor.space.takeWhile (· != '\n')

def readFault (path : String) (fault : FileError) (next : Unit → Program) : Program :=
  match fault with
  | .isDirectory => refuseWith 4 "sed" s!"read error on {path}: {fault.reason}"
  | fault => complain "sed" s!"can't read {path}: {fault.reason}" next

/-- Whether a line is left behind this one. -/
def look (editor : Editor) (next : Bool → Next) : Program :=
  editor.feed.look readFault fun more feed => next more { editor with feed }

/-- The next line, which is taken in by `take`. -/
def advance (editor : Editor) (take : Line → Editor → Editor) (next : Bool → Next) : Program :=
  editor.feed.next readFault Program.rounds fun line feed =>
    match line with
    | none => next false { editor with feed }
    | some line => next true (take line { editor with feed, number := editor.number + 1, ended := line.ended, source := line.source })

/-- The expression that is meant, which is the latest one if none is given. -/
def resolve (sought : Sought) (editor : Editor) : Sought :=
  if sought.regex.isSome then sought else editor.latest

def search (sought : Sought) (text : Array Char) : Regex.Setting :=
  { text, ignoresCase := sought.ignoresCase, byLine := sought.byLine }

/-- Uses an expression. There may be none yet. -/
def withRegex (sought : Sought) (editor : Editor) (next : Sought → Regex → Next) : Program :=
  let sought := editor.resolve sought
  match sought.regex with
  | none => editor.outlet.flush fun _ => refuse "sed" "no previous regular expression"
  | some regex => next sought regex { editor with latest := sought }

def fits (address : Address) (editor : Editor) (next : Bool → Next) : Program :=
  match address with
  | .line number => next (editor.number = number) editor
  | .every first step => next (first ≤ editor.number && (editor.number - first) % step = 0) editor
  | .last => editor.look fun more editor => next (!more) editor
  | .fits sought =>
    editor.withRegex sought fun sought regex editor =>
      next (regex.find? (search sought editor.space.toArray) 0).isSome editor
  | _ => next false editor

def setRange (index : Nat) (range : Range) (editor : Editor) : Editor :=
  { editor with ranges := editor.ranges.setIfInBounds index range }

/-- The range that begins at this line; `none` if it ends here, too. -/
def rangeFrom (number : Nat) : Address → Option Range
  | .line last => if last ≤ number then none else some (.inside (some last))
  | .later count => if count = 0 then none else some (.inside (some (number + count)))
  | .multiple count => if count = 0 then none else some (.inside (some ((number / count + 1) * count)))
  | _ => some (.inside none)

/-- Whether a command is for this line. -/
def selects (index : Nat) (selector : Selector) (editor : Editor) (next : Bool → Next) : Program :=
  let answer (held : Bool) (editor : Editor) : Program := next (held != selector.negated) editor
  match selector.first, selector.second with
  | none, _ => answer true editor
  | some address, none => editor.fits address answer
  | some first, some second =>
    match editor.ranges[index]? with
    | some (.inside (some last)) =>
      answer (editor.number ≤ last) (if last ≤ editor.number then editor.setRange index .outside else editor)
    | some (.inside none) =>
      editor.fits second fun ends editor => answer true (if ends then editor.setRange index .outside else editor)
    | _ =>
      editor.fits first fun begins editor =>
        if !begins then answer false editor
        else
          match rangeFrom editor.number second with
          | none => answer true editor
          | some range => answer true (editor.setRange index range)

end Editor

/-- A text with its letters changed, the first one perhaps in its own way. -/
def changeCase (lasting once : CaseChange) (text : List Char) : List Char :=
  let apply (change : CaseChange) (c : Char) : Char :=
    match change with
    | .upper => c.toUpper
    | .upperOne => c.toUpper
    | .lower => c.toLower
    | .lowerOne => c.toLower
    | .none => c
  match text with
  | [] => []
  | c :: rest => apply (if once = .none then lasting else once) c :: rest.map (apply lasting)

/-- The text that takes the place of a match. -/
def filled (text : Array Char) (found : Regex.Match) (lasting once : CaseChange) : List Replacement → List Char
  | [] => []
  | .change change :: rest =>
    match change with
    | .upperOne => filled text found lasting .upperOne rest
    | .lowerOne => filled text found lasting .lowerOne rest
    | change => filled text found change once rest
  | .text part :: rest =>
    changeCase lasting once part ++ filled text found lasting (if part.isEmpty then once else .none) rest
  | .group number :: rest =>
    let part :=
      match found.span? number with
      | some (first, last) => (text.extract first last).toList
      | none => []
    changeCase lasting once part ++ filled text found lasting (if part.isEmpty then once else .none) rest

/-- Replaces matches from a position on; a match without width does not count right behind another one. -/
def replaceFrom (substitution : Substitution) (setting : Regex.Setting) (regex : Regex) (fuel position count : Nat)
    (before : Option Nat) (done : Bool) (held : List (List Char)) : Bool × List (List Char) :=
  let rest (position : Nat) : List Char := (setting.text.extract position setting.text.size).toList
  match fuel with
  | 0 => (done, rest position :: held)
  | fuel + 1 =>
    match if setting.text.size < position then none else regex.find? setting position with
    | none => (done, rest position :: held)
    | some found =>
      let between := (setting.text.extract position found.first).toList
      let isEmpty := found.first = found.last
      let onward := (setting.text.extract found.last (found.last + 1)).toList
      if isEmpty && before == some found.first then
        replaceFrom substitution setting regex fuel (found.last + 1) count none done (onward :: between :: held)
      else
        let count := count + 1
        if count < substitution.number then
          let passed := (setting.text.extract found.first found.last).toList
          if isEmpty then replaceFrom substitution setting regex fuel (found.last + 1) count none done (onward :: between :: held)
          else replaceFrom substitution setting regex fuel found.last count (some found.last) done (passed :: between :: held)
        else
          let text := filled setting.text found .none .none substitution.parts
          if !substitution.isGlobal then (true, rest found.last :: text :: between :: held)
          else if isEmpty then
            replaceFrom substitution setting regex fuel (found.last + 1) count none true (onward :: text :: between :: held)
          else replaceFrom substitution setting regex fuel found.last count (some found.last) true (text :: between :: held)

/-- A line with everything in it made visible, cut into pieces of a width. -/
def listed (width : Nat) (text : List Char) : String :=
  let show' (c : Char) : String :=
    match c with
    | '\\' => "\\\\"
    | '\x07' => "\\a"
    | '\x08' => "\\b"
    | '\x0c' => "\\f"
    | '\n' => "\\n"
    | '\r' => "\\r"
    | '\t' => "\\t"
    | '\x0b' => "\\v"
    | c =>
      if 32 ≤ c.toNat && c.toNat < 127 then String.singleton c
      else
        let digits := Nat.toDigits 8 c.toNat
        "\\" ++ String.ofList (List.replicate (3 - digits.length) '0' ++ digits)
  let (shown, _) := text.foldl (fun (shown, used) c =>
    let piece := show' c
    if 1 < width && width - 1 < used + piece.length then (piece :: "\\\n" :: shown, piece.length)
    else (piece :: shown, used + piece.length)) (([] : List String), 0)
  String.join shown.reverse ++ "$"

/-- How a line is done with. -/
inductive Ending where
  /-- It is shown, unless nothing is. -/
  | shown
  | dropped
  /-- The commands begin again with what is left of it. -/
  | again
  | over (code : Nat) (isShown : Bool)

/-- The whole contents of a file, as text. Nothing if it cannot be read. -/
def wholeFile (path : String) (next : String → Program) : Program :=
  if path = "/dev/stdin" then Program.readAll 0 fun bytes => next (ByteText.ofBytes bytes)
  else
    .call (.openFile 4 ⟨path⟩ .read) fun
      | .failed _ => next ""
      | _ => Program.readAll 4 fun bytes => Program.perform (.close 4) fun _ => next (ByteText.ofBytes bytes)

namespace Editor

/-- Shows what is queued behind a line. -/
def flushQueue (setting : Setting) (editor : Editor) (next : Next) : Program :=
  go editor.queue.reverse { editor with queue := [] }
where
  go : List Queued → Editor → Program
    | [], editor => next editor
    | .text text :: rest, editor => editor.putRaw setting text (go rest)
    | .file path :: rest, editor => wholeFile path fun text => editor.putRaw setting text (go rest)

/-- The next line of a file that is read line by line. -/
def lineOf (path : String) (editor : Editor) (next : Option String → Next) : Program :=
  let give (lines : List String) : Program :=
    let readers := (path, lines.drop 1) :: editor.readers.filter (·.1 != path)
    next lines.head? { editor with readers }
  match editor.readers.find? (·.1 == path) with
  | some (_, lines) => give lines
  | none => wholeFile path fun text => give (textLines (ByteText.toBytes text))

def writeTo (setting : Setting) (path text : String) (editor : Editor) (next : Next) : Program :=
  if path = "/dev/stdout" then editor.put setting text true next
  else
    let descriptor := if path = "/dev/stderr" then 2 else ((setting.outputs.find? (·.1 == path)).map (·.2)).getD 2
    Program.writeText descriptor (text ++ "\n") fun _ => next editor

def substitute (setting : Setting) (substitution : Substitution) (editor : Editor) (next : Next) : Program :=
  editor.withRegex substitution.sought fun sought regex editor =>
    let text := editor.space.toArray
    let (done, pieces) := replaceFrom substitution (search sought text) regex (2 * text.size + 2) 0 0 none false []
    if !done then next editor
    else
      let editor := { editor with space := pieces.reverse.flatten, replaced := true }
      let show' (next : Next) : Program := if substitution.shows then editor.display setting next else next editor
      show' fun editor =>
        match substitution.output with
        | some path => editor.writeTo setting path editor.spaceText next
        | none => next editor

/-- Takes in a further line behind the one that is there. -/
def join (line : Line) (editor : Editor) : Editor := { editor with space := editor.space ++ '\n' :: line.text.toList }

def replace (line : Line) (editor : Editor) : Editor := { editor with space := line.text.toList }

/-- Carries out the commands from one on. -/
def run (setting : Setting) (fuel index : Nat) (editor : Editor) (finish : Ending → Next) : Program :=
  match fuel with
  | 0 => .exit 1
  | fuel + 1 =>
    match setting.script.commands[index]? with
    | none => finish .shown editor
    | some command =>
      let go (editor : Editor) : Program := run setting fuel (index + 1) editor finish
      let jump (target : Nat) (editor : Editor) : Program := run setting fuel target editor finish
      editor.selects index command.selector fun chosen editor =>
        if !chosen then
          match command.action with
          | .block behind => jump behind editor
          | _ => go editor
        else
          match command.action with
          | .block _ => go editor
          | .mark => go editor
          | .jump target => jump target editor
          | .jumpIfReplaced target => if editor.replaced then jump target { editor with replaced := false } else go editor
          | .jumpUnlessReplaced target => if editor.replaced then go { editor with replaced := false } else jump target editor
          | .append text => go { editor with queue := .text text :: editor.queue }
          | .insert text => editor.putRaw setting text go
          | .change text =>
            let isInside :=
              match editor.ranges[index]? with
              | some (.inside _) => command.selector.second.isSome && !command.selector.negated
              | _ => false
            if isInside then finish .dropped editor else editor.putRaw setting text (finish .dropped)
          | .delete => finish .dropped editor
          | .deleteLine =>
            if editor.space.contains '\n' then
              finish .again { editor with space := editor.space.drop (editor.firstLine.length + 1) }
            else finish .dropped editor
          | .showNumber => editor.putRaw setting s!"{editor.number}\n" go
          | .showSource => editor.putRaw setting (editor.source ++ "\n") go
          | .recall => go { editor with space := editor.hold }
          | .recallMore => go { editor with space := editor.space ++ '\n' :: editor.hold }
          | .keep => go { editor with hold := editor.space }
          | .keepMore => go { editor with hold := editor.hold ++ '\n' :: editor.space }
          | .swap => go { editor with space := editor.hold, hold := editor.space }
          | .clear => go { editor with space := [] }
          | .next =>
            editor.look fun more editor =>
              if !more then finish (.over 0 true) editor
              else
                let show' (next : Next) : Program := if setting.isSilent then next editor else editor.display setting next
                show' fun editor => editor.flushQueue setting fun editor => editor.advance replace fun _ editor => go editor
          | .nextMore =>
            editor.look fun more editor =>
              if !more then finish (.over 0 true) editor
              else editor.flushQueue setting fun editor => editor.advance join fun _ editor => go editor
          | .display => editor.display setting go
          | .displayLine => editor.put setting (String.ofList editor.firstLine) true go
          | .list width => editor.putRaw setting (listed (width.getD setting.width) editor.space ++ "\n") go
          | .quit code => finish (.over code true) editor
          | .quitSilently code => finish (.over code false) editor
          | .readFile path => go { editor with queue := .file path :: editor.queue }
          | .readLine path =>
            editor.lineOf path fun line editor =>
              match line with
              | some line => go { editor with queue := .text (line ++ "\n") :: editor.queue }
              | none => go editor
          | .writeFile path => editor.writeTo setting path editor.spaceText go
          | .writeLine path => editor.writeTo setting path (String.ofList editor.firstLine) go
          | .exchange pairs =>
            go { editor with space := editor.space.map fun c => ((pairs.find? (·.1 == c)).map (·.2)).getD c }
          | .substitute substitution => editor.substitute setting substitution go

/-- Goes through the lines of a text. The end may be asked for with a status. -/
def cycles (setting : Setting) (fuel : Nat) (isKept : Bool) (editor : Editor) (finish : Option Nat → Next) : Program :=
  match fuel with
  | 0 => .exit 1
  | fuel + 1 =>
    let work (editor : Editor) : Program :=
      editor.run setting Program.rounds 0 fun ending editor =>
        let isShown :=
          match ending with
          | .shown => !setting.isSilent
          | .over _ isShown => isShown && !setting.isSilent
          | _ => false
        let show' (next : Next) : Program := if isShown then editor.display setting next else next editor
        show' fun editor =>
          match ending with
          | .over code false => finish (some code) editor
          | .over code true => editor.flushQueue setting (finish (some code))
          | .again => editor.flushQueue setting fun editor => cycles setting fuel true editor finish
          | _ => editor.flushQueue setting fun editor => cycles setting fuel false editor finish
    if isKept then work { editor with replaced := false }
    else
      editor.advance replace fun more editor =>
        if more then work { editor with replaced := false } else finish none editor

end Editor

namespace Setting

def startRanges (setting : Setting) : Array Range :=
  setting.script.commands.map fun command =>
    match command.selector.first, command.selector.second with
    | some (.line 0), some _ => .inside none
    | _, _ => .outside

/-- Puts what came of a file in its place. -/
def putBack (path ending : String) (editor : Editor) (next : Editor → Program) : Program :=
  let write : Program :=
    .call (.openFile 4 ⟨path⟩ .write) fun _ =>
      Program.performAll [.write 4 editor.outlet.bytes, .close 4] fun _ => next { editor with outlet := {}, isOpen := false }
  if ending.isEmpty then write
  else
    wholeFile path fun text =>
      .call (.openFile 4 ⟨path ++ ending⟩ .write) fun _ =>
        Program.performAll [.write 4 (ByteText.toBytes text), .close 4] fun _ => write

/-- Works through groups of files, each of which is a text of its own. -/
def runGroups (setting : Setting) : List (List String) → Editor → Program
  | [], editor => editor.outlet.flush fun _ => .exit (if editor.feed.clean then 0 else 2)
  | group :: rest, editor =>
    let feed := { Feed.ofPaths group with separator := setting.separator, clean := editor.feed.clean }
    let number := if setting.inPlace.isSome then 0 else editor.number
    Editor.cycles setting Program.rounds false { editor with feed, number } fun code editor =>
      let close (next : Editor → Program) : Program :=
        match setting.inPlace, group with
        | some ending, [path] => if editor.feed.clean then putBack path ending editor next else next editor
        | _, _ => next editor
      close fun editor =>
        match code with
        | some code => editor.outlet.flush fun _ => .exit (if code = 0 && !editor.feed.clean then 2 else code)
        | none => runGroups setting rest editor

/-- The files that a script writes to. -/
def writtenFiles (script : Script) : List String :=
  (script.commands.toList.filterMap fun command =>
    match command.action with
    | .writeFile path => some path
    | .writeLine path => some path
    | .substitute substitution => substitution.output
    | _ => none).filter (fun path => path != "/dev/stdout" && path != "/dev/stderr") |>.eraseDups

def start (setting : Setting) (groups : List (List String)) : Program :=
  let rec openAll : List (String × Nat) → Program
    | [] => setting.runGroups groups { feed := { waiting := [] }, ranges := setting.startRanges }
    | (path, descriptor) :: rest =>
      .call (.openFile descriptor ⟨path⟩ .write) fun
        | .failed fault => refuseWith 4 "sed" s!"couldn't open file {path}: {fault.reason}"
        | _ => openAll rest
  openAll setting.outputs

end Setting

end Editing

open Editing

def sedTable : OptionTable :=
  { tool := "sed", letters := "bsnrzuEe:f:l:i::",
    names := [("quiet", 'n'), ("silent", 'n'), ("expression", 'e'), ("file", 'f'), ("in-place", 'i'), ("line-length", 'l'),
      ("regexp-extended", 'E'), ("separate", 's'), ("unbuffered", 'u'), ("null-data", 'z'), ("posix", 'b')] }

/-- How a piece of a script came in. -/
inductive Piece where
  | given (text : String)
  | file (path : String)

/-- Reads the pieces of a script in turn. -/
def readPieces (style : ReadingStyle) (pieces : List Piece) (next : Draft → Program) : Program :=
  go 1 {} pieces
where
  go (number : Nat) (draft : Draft) : List Piece → Program
    | [] => if draft.blocks.isEmpty then next draft else refuse "sed" ("-e expression #1, char 0: " ++ Fault.unmatchedOpen.message)
    | .given text :: rest =>
      match draft.readPiece { style with isFirst := number = 1 } text with
      | .ok draft => go (number + 1) draft rest
      | .error (fault, position) => refuse "sed" (s!"-e expression #{number}, char {position}: " ++ fault.message)
    | .file path :: rest =>
      .call (.openFile inputDescriptor ⟨path⟩ .read) fun
        | .failed fault => refuseWith 4 "sed" s!"couldn't open file {path}: {fault.reason}"
        | _ =>
          Program.readAll inputDescriptor fun bytes =>
            Program.perform (.close inputDescriptor) fun _ =>
              let text := ByteText.ofBytes bytes
              match draft.readPiece { style with isFirst := number = 1 } text with
              | .ok draft => go number draft rest
              | .error (fault, position) =>
                let line := (text.toList.take position).count '\n' + 1
                refuse "sed" (s!"file {path} line {line}: " ++ fault.message)

def sed : Tool := withOptions sedTable fun given _ =>
  let pieces := given.options.filterMap fun (letter, text) =>
    if letter = 'e' then some (Piece.given text) else if letter = 'f' then some (Piece.file text) else none
  let (pieces, paths) :=
    match pieces, given.operands with
    | [], script :: paths => ([Piece.given script], paths)
    | pieces, operands => (pieces, operands)
  if pieces.isEmpty then
    Program.writeText 2 "Usage: sed [OPTION]... \x7bscript-only-if-no-other-script\x7d [input-file]...\n" fun _ => .exit 1
  else
    readPieces { extended := given.has 'E' || given.has 'r' } pieces fun draft =>
      match draft.finish with
      | .error fault => refuseWith 4 "sed" fault
      | .ok script =>
        let inPlace := given.value? 'i'
        let setting : Editing.Setting :=
          { script
            isSilent := script.isSilent || given.has 'n'
            separator := if given.has 'z' then '\x00' else '\n'
            width := ((given.value? 'l').bind decimal?).getD 70
            inPlace
            outputs := (Setting.writtenFiles script).zipIdx 5 }
        let groups := if (inPlace.isSome || given.has 's') && !paths.isEmpty then paths.map fun path => [path] else [paths]
        setting.start groups

end BuildWatch.Toolbox
