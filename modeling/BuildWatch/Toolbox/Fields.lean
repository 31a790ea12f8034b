import BuildWatch.Toolbox.Options

/-! Programs that take lines apart into fields, or put lines together side by side. -/

namespace BuildWatch.Toolbox

open Machine

/-- Positions from a first one up to a last one; without a last one it goes on to the end. -/
structure Span where
  first : Nat
  last : Option Nat
  deriving Inhabited

namespace Span

def holds (position : Nat) (span : Span) : Bool := span.first ≤ position && span.last.all (position ≤ ·)

/-- A list of spans such as `1,3-5,7-`. -/
def read (byFields : Bool) (text : String) : Except String (List Span) :=
  ((text.map fun c => if c = ' ' || c = '\t' then ',' else c).splitOn ",").mapM fun piece =>
    match piece.splitOn "-" with
    | [one] => do
      let position ← number one
      return ⟨position, some position⟩
    | ["", ""] => .error "invalid range with no endpoint: -"
    | [first, last] => do
      let first ← if first.isEmpty then pure 1 else number first
      let last ← if last.isEmpty then pure none else (number last).map some
      if last.any (· < first) then .error "invalid decreasing range" else return ⟨first, last⟩
    | _ => .error (if byFields then "invalid field range" else "invalid byte or character range")
where
  number (text : String) : Except String Nat :=
    match decimal? text with
    | some 0 => .error (if byFields then "fields are numbered from 1" else "byte/character positions are numbered from 1")
    | some value => .ok value
    | none =>
      if text.isEmpty then .error (if byFields then "fields are numbered from 1" else "byte/character positions are numbered from 1")
      else .error ((if byFields then "invalid field value '" else "invalid byte/character position '") ++ text ++ "'")

end Span

def cutTable : OptionTable :=
  { tool := "cut", letters := "b:c:d:f:nszCo:",
    names := [("bytes", 'b'), ("characters", 'c'), ("delimiter", 'd'), ("fields", 'f'), ("only-delimited", 's'),
      ("complement", 'C'), ("output-delimiter", 'o'), ("zero-terminated", 'z')] }

/-- Neighbouring positions that are wanted, in runs. -/
def runsOf (wanted : Nat → Bool) (spans : List Span) (text : List Char) : List (List Char) :=
  let marked := text.zipIdx 1
  let kept := marked.filter fun (_, position) => wanted position
  let starts (position : Nat) : Bool := spans.any (·.first = position)
  (kept.splitBy fun a b => a.2 + 1 = b.2 && !starts b.2).map fun run => run.map (·.1)

def cut : Tool := withOptions cutTable fun given _ =>
  let lists := given.options.filter fun (letter, _) => letter = 'b' || letter = 'c' || letter = 'f'
  match lists with
  | [] => misuse 1 "cut" "you must specify a list of bytes, characters, or fields"
  | _ :: _ :: _ => misuse 1 "cut" "only one list may be specified"
  | [(letter, text)] =>
    let byFields := letter = 'f'
    let delimiter := (given.value? 'd').getD "\t"
    let delimiter := if delimiter.isEmpty then "\x00" else delimiter
    if 1 < delimiter.length then misuse 1 "cut" "the delimiter must be a single character"
    else if given.has 'd' && !byFields then
      misuse 1 "cut" "an input delimiter may be specified only when operating on fields"
    else if given.has 's' && !byFields then
      misuse 1 "cut" "suppressing non-delimited lines makes sense\n\tonly when operating on fields"
    else
      match Span.read byFields text with
      | .error fault => misuse 1 "cut" fault
      | .ok spans =>
        let wanted (position : Nat) : Bool := spans.any (·.holds position) != given.has 'C'
        let line (text : String) : Option String :=
          if byFields then
            let fields := text.splitOn delimiter
            if fields.length = 1 then (if given.has 's' then none else some text)
            else
              let kept := (fields.zipIdx 1).filter fun (_, position) => wanted position
              some (((given.value? 'o').getD delimiter).intercalate (kept.map (·.1)))
          else
            match given.value? 'o' with
            | none => some (String.ofList (((text.toList.zipIdx 1).filter fun (_, position) => wanted position).map (·.1)))
            | some between => some (between.intercalate ((runsOf wanted spans text.toList).map String.ofList))
        contents "cut" given.operands fun read clean =>
          writeLines "cut" ((read.flatMap textLines).filterMap line) (if clean then 0 else 1)

def pasteTable : OptionTable :=
  { tool := "paste", letters := "d:sz", names := [("delimiters", 'd'), ("serial", 's'), ("zero-terminated", 'z')] }

/-- The separators of a list; one of them may be nothing at all. -/
def separatorsOf (fuel : Nat) (text : List Char) : List String :=
  match fuel, text with
  | 0, _ => []
  | _, [] => []
  | fuel + 1, '\\' :: c :: rest =>
    let separator :=
      match c with
      | 'n' => "\n"
      | 't' => "\t"
      | '0' => ""
      | c => String.singleton c
    separator :: separatorsOf fuel rest
  | fuel + 1, c :: rest => String.singleton c :: separatorsOf fuel rest

/-- Texts with separators between them, which are used in turn. -/
def joinWith (separators : List String) : List String → String
  | [] => ""
  | first :: rest =>
    first ++ String.join (rest.zipIdx.map fun (text, index) => (separators[index % separators.length]?).getD "" ++ text)

def paste : Tool := withOptions pasteTable fun given _ =>
  let list := (given.value? 'd').getD "\t"
  let separators := separatorsOf (list.length + 1) list.toList
  let separators := if separators.isEmpty then [""] else separators
  let paths := if given.operands.isEmpty then ["-"] else given.operands
  let inputs := paths.count "-"
  contents "paste" (paths.filter (· != "-") ++ if 0 < inputs then ["-"] else []) fun read clean =>
    let files := read.map textLines
    let common := if 0 < inputs then files.getLast?.getD [] else []
    let named := if 0 < inputs then files.dropLast else files
    let columns := spread common inputs paths named 0
    let code := if clean then 0 else 1
    if given.has 's' then
      let columns := if 0 < inputs then whole common paths named else columns
      writeLines "paste" (columns.map (joinWith separators)) code
    else
      let height := columns.foldl (fun height column => max height column.length) 0
      let row (index : Nat) : String := joinWith separators (columns.map fun column => (column[index]?).getD "")
      writeLines "paste" ((List.range height).map row) code
where
  /-- Every mention of the common input takes each of its lines in turn. -/
  spread (common : List String) (inputs : Nat) : List String → List (List String) → Nat → List (List String)
    | [], _, _ => []
    | "-" :: rest, named, index =>
      ((common.zipIdx.filter fun (_, position) => position % inputs = index).map (·.1)) :: spread common inputs rest named (index + 1)
    | _ :: rest, named, index => named.headD [] :: spread common inputs rest named.tail index
  whole (common : List String) : List String → List (List String) → List (List String)
    | [], _ => []
    | "-" :: rest, named => common :: whole [] rest named
    | _ :: rest, named => named.headD [] :: whole common rest named.tail

def joinTable : OptionTable :=
  { tool := "join", letters := "a:e:i1:2:j:o:t:v:",
    names := [("ignore-case", 'i')] }

/-- A line taken apart, and the field that it is joined by. -/
structure JoinLine where
  key : String
  fields : List String
  deriving Inhabited

def joinFields (separator : Option String) (text : String) : List String :=
  match separator with
  | some separator => text.splitOn separator
  | none => (text.splitToList fun c => c = ' ' || c = '\t').filter (!·.isEmpty)

def joinLine (separator : Option String) (number : Nat) (text : String) : JoinLine :=
  let fields := joinFields separator text
  { key := (fields[number - 1]?).getD "", fields }

/-- Pairs of lines with the same key, and lines without a partner. -/
def joinPairs (fuel : Nat) (a b : List JoinLine) : List (Option JoinLine × Option JoinLine) :=
  match fuel, a, b with
  | 0, _, _ => []
  | _, [], b => b.map fun line => (none, some line)
  | _, a, [] => a.map fun line => (some line, none)
  | fuel + 1, x :: xs, y :: ys =>
    if x.key < y.key then (some x, none) :: joinPairs fuel xs (y :: ys)
    else if y.key < x.key then (none, some y) :: joinPairs fuel (x :: xs) ys
    else
      let left := (x :: xs).takeWhile (·.key == x.key)
      let right := (y :: ys).takeWhile (·.key == x.key)
      left.flatMap (fun line => right.map fun other => (some line, some other)) ++
        joinPairs fuel ((x :: xs).drop left.length) ((y :: ys).drop right.length)

def join : Tool := withOptions joinTable fun given _ =>
  match given.operands with
  | [first, second] =>
    let separator := given.value? 't'
    let number (letter : Char) : Nat := ((given.value? letter).orElse fun _ => given.value? 'j').bind decimal? |>.getD 1
    let between := separator.getD " "
    let empty := (given.value? 'e').getD ""
    let others (number : Nat) (line : JoinLine) : List String := line.fields.eraseIdx (number - 1)
    let chosen (pair : Option JoinLine × Option JoinLine) (place : String) : String :=
      let field (line : Option JoinLine) (index : Nat) : String := (line.bind fun line => line.fields[index - 1]?).getD empty
      match place.splitOn "." with
      | ["1", index] => field pair.1 ((decimal? index).getD 0)
      | ["2", index] => field pair.2 ((decimal? index).getD 0)
      | _ => ((pair.1.orElse fun _ => pair.2).map (·.key)).getD empty
    let shown (pair : Option JoinLine × Option JoinLine) : String :=
      match given.value? 'o' with
      | some places => between.intercalate (((places.map fun c => if c = ' ' then ',' else c).splitOn ",").map (chosen pair))
      | none =>
        let key := ((pair.1.orElse fun _ => pair.2).map (·.key)).getD ""
        between.intercalate (key :: (pair.1.map (others (number '1'))).getD [] ++ (pair.2.map (others (number '2'))).getD [])
    let lonely (side : String) : Bool := (given.values 'a').contains side || (given.values 'v').contains side
    let isKept : Option JoinLine × Option JoinLine → Bool
      | (some _, some _) => !given.has 'v'
      | (some _, none) => lonely "1"
      | (none, _) => lonely "2"
    contents "join" [first, second] fun read clean =>
      if !clean then .exit 1
      else
        let left := (textLines (read.headD [])).map (joinLine separator (number '1'))
        let right := (textLines ((read[1]?).getD [])).map (joinLine separator (number '2'))
        let pairs := joinPairs (left.length + right.length + 1) left right
        writeLines "join" ((pairs.filter isKept).map shown) 0
  | [] => missingOperand "join"
  | [one] => misuse 1 "join" s!"missing operand after '{one}'"
  | _ :: _ :: extra :: _ => extraOperand "join" extra

end BuildWatch.Toolbox
