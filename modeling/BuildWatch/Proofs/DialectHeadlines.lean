import BuildWatch.Proofs.DialectLocations

/-! What the loader dialect finds. Each part of its scanner is described by the texts it accepts: the position ends a line,
the file is what stands between the word that announces it and the position, and the word is the first one that has such a
file behind it. A position cannot hide in a file name, since nothing but blanks may follow it on its line. -/

namespace BuildWatch.Dialect
open BuildWatch.Text

/-! ### The end of a line -/

/-- A text at the end of a line, and what is behind it. -/
inductive EndsLine : List Char → List Char → Prop
  | done : EndsLine [] []
  | feed (behind : List Char) : EndsLine ('\n' :: behind) behind
  | returned (behind : List Char) : EndsLine ('\r' :: '\n' :: behind) behind

/-- A text that goes on within its line is not at the end of one. -/
theorem EndsLine.not_within {front rest behind : List Char} {c : Char} (whole : '\n' ∉ front) (feed : c ≠ '\n')
    (other : c ≠ '\r') : ¬ EndsLine (front ++ c :: rest) behind := by
  intro ends
  generalize shape : front ++ c :: rest = text at ends
  cases ends with
  | done => simp at shape
  | feed =>
    cases front with
    | nil => exact feed (List.cons.inj shape).1
    | cons first later => exact whole ((List.cons.inj shape).1 ▸ List.mem_cons_self)
  | returned =>
    match front with
    | [] => exact other (List.cons.inj shape).1
    | [_] => exact feed (List.cons.inj (List.cons.inj shape).2).1
    | _ :: second :: _ =>
      have same : second = '\n' := (List.cons.inj (List.cons.inj shape).2).1
      exact whole (same ▸ List.mem_cons_of_mem _ List.mem_cons_self)

theorem EndsLine.head_not_blank {ending behind : List Char} (ends : EndsLine ending behind) :
    ∀ c, ending.head? = some c → isTabOrBlank c = false := by
  cases ends with
  | done => simp
  | feed | returned =>
    rintro _ ⟨⟩
    decide

theorem dropWhile_head {p : Char → Bool} (text : List Char) : ∀ c, (text.dropWhile p).head? = some c → p c = false := by
  intro c first
  have stops := List.head?_dropWhile_not p text
  simpa [first] using stops

theorem restOfLine_eq_some {text message : List Char} : restOfLine text = some message ↔
    ∃ blanks ending, text = blanks ++ ending ∧ (∀ c ∈ blanks, isTabOrBlank c = true) ∧ EndsLine ending message := by
  constructor
  · intro found
    refine ⟨_, _, List.takeWhile_append_dropWhile.symm, fun _ => List.mem_takeWhile_imp, ?_⟩
    unfold restOfLine at found
    split at found
    next none =>
      cases found
      rw [none]
      exact .done
    next rest feed =>
      cases found
      rw [feed]
      exact .feed _
    next rest returned =>
      cases found
      rw [returned]
      exact .returned _
    next => cases found
  · rintro ⟨blanks, ending, rfl, blank, ends⟩
    rw [restOfLine, (takeWhile_stops blank ends.head_not_blank).2]
    cases ends <;> rfl

/-! ### Positions -/

/-- A number as it is printed. -/
structure Digits (digits : List Char) : Prop where
  counted : digits ≠ []
  all : ∀ c ∈ digits, isDigit c = true

theorem Digits.not_mem {digits : List Char} (figures : Digits digits) {c : Char} (other : isDigit c = false) :
    c ∉ digits := by
  intro member
  rw [figures.all c member] at other
  cases other

theorem digitsBefore_eq_some {stop : Char} (stops : isDigit stop = false) {text digits rest : List Char} :
    digitsBefore stop text = some (digits, rest) ↔ text = digits ++ stop :: rest ∧ Digits digits := by
  constructor
  · intro found
    have parts : text.takeWhile isDigit ++ text.dropWhile isDigit = text := List.takeWhile_append_dropWhile
    have all : ∀ c ∈ text.takeWhile isDigit, isDigit c = true := fun _ => List.mem_takeWhile_imp
    unfold digitsBefore at found
    split at found
    next => cases found
    next behind counted =>
      split at found
      next same =>
        cases found
        rw [behind, same] at parts
        exact ⟨parts.symm, counted, all⟩
      next => cases found
    next => cases found
  · rintro ⟨rfl, figures⟩
    exact digitsBefore_digits figures.counted figures.all stops rest

/-- A position in parentheses, and the blanks between it and the end of its line. -/
def positionText (line column blanks : List Char) : List Char := '(' :: (line ++ ',' :: (column ++ ')' :: blanks))

/-- What makes such a text a position. -/
structure Positioned (line column blanks : List Char) : Prop where
  line : Digits line
  column : Digits column
  blank : ∀ c ∈ blanks, isTabOrBlank c = true

theorem Positioned.not_mem {line column blanks : List Char} (positioned : Positioned line column blanks) {c : Char}
    (digit : isDigit c = false) (comma : c ≠ ',') (close : c ≠ ')') (blank : isTabOrBlank c = false) :
    c ∉ line ++ ',' :: (column ++ ')' :: blanks) := by
  have tail : c ∉ blanks := by
    intro member
    rw [positioned.blank c member] at blank
    cases blank
  simp [positioned.line.not_mem digit, positioned.column.not_mem digit, comma, close, tail]

theorem loaderPosition_eq_some {text line column message : List Char} :
    loaderPosition text = some (line, column, message) ↔ ∃ blanks ending,
      text = positionText line column blanks ++ ending ∧ Positioned line column blanks ∧ EndsLine ending message := by
  constructor
  · intro found
    unfold loaderPosition at found
    split at found
    next behind =>
      simp only [Option.bind_eq_bind, Option.bind_eq_some_iff, Option.pure_def, Option.some.injEq, Prod.exists] at found
      obtain ⟨first, rest, lined, second, last, columned, behind, ends, parts⟩ := found
      cases parts
      obtain ⟨rfl, line⟩ := (digitsBefore_eq_some (by decide)).mp lined
      obtain ⟨rfl, column⟩ := (digitsBefore_eq_some (by decide)).mp columned
      obtain ⟨blanks, ending, rfl, blank, closes⟩ := restOfLine_eq_some.mp ends
      refine ⟨blanks, ending, ?_, ⟨line, column, blank⟩, closes⟩
      simp only [positionText, List.cons_append, List.append_assoc]
    next => cases found
  · rintro ⟨blanks, ending, rfl, positioned, ends⟩
    have lined := digitsBefore_digits positioned.line.counted positioned.line.all (by decide : isDigit ',' = false)
      (column ++ ')' :: (blanks ++ ending))
    have columned := digitsBefore_digits positioned.column.counted positioned.column.all (by decide : isDigit ')' = false)
      (blanks ++ ending)
    have closes := restOfLine_eq_some.mpr ⟨blanks, ending, rfl, positioned.blank, ends⟩
    simp [loaderPosition, positionText, lined, columned, closes]

/-- No position begins before a parenthesis that is opened later on the same line. -/
theorem loaderPosition_before {front : List Char} (some : front ≠ []) (whole : '\n' ∉ front) (rest : List Char) :
    loaderPosition (front ++ '(' :: rest) = none := by
  rw [Option.eq_none_iff_forall_ne_some]
  rintro ⟨line, column, message⟩ found
  obtain ⟨blanks, ending, shape, positioned, ends⟩ := loaderPosition_eq_some.mp found
  obtain ⟨first, later, rfl⟩ := List.exists_cons_of_ne_nil some
  obtain ⟨-, shape⟩ := List.cons.inj (show first :: (later ++ '(' :: rest) = '(' :: (_ ++ ending) from shape)
  have plain : '(' ∉ line ++ ',' :: (column ++ ')' :: blanks) :=
    positioned.not_mem (by decide) (by decide) (by decide) (by decide)
  rcases List.append_eq_append_iff.mp shape with ⟨inner, within, behind⟩ | ⟨inner, within, behind⟩
  · -- the parenthesis would stand in the position or begin the end of the line
    cases inner with
    | nil =>
      rw [← List.nil_append ending, ← behind] at ends
      exact ends.not_within List.not_mem_nil (by decide) (by decide)
    | cons c inner =>
      obtain ⟨rfl, -⟩ := List.cons.inj behind
      exact plain (within ▸ List.mem_append_right _ List.mem_cons_self)
  · -- the position would end before the parenthesis, and its line with it
    have inside : '\n' ∉ inner := fun feed => whole (List.mem_cons_of_mem _ (within ▸ List.mem_append_right _ feed))
    rw [behind] at ends
    exact ends.not_within inside (by decide) (by decide)

/-! ### Searches along a line -/

/-- The first place on a line where `read` succeeds, and what stands before it. The end of the line is still tried. -/
def firstOnLine {α : Type} (read : List Char → Option α) : List Char → Option (List Char × α)
  | [] => none
  | c :: rest =>
    match read (c :: rest) with
    | some found => some ([], found)
    | none => if c = '\n' then none else (firstOnLine read rest).map fun (front, found) => (c :: front, found)

theorem firstOnLine_eq_some {α : Type} {read : List Char → Option α} (silent : read [] = none) {text front : List Char}
    {found : α} : firstOnLine read text = some (front, found) ↔ ∃ target, text = front ++ target ∧ '\n' ∉ front ∧
      read target = some found ∧ ∀ before back, front = before ++ back → back ≠ [] → read (back ++ target) = none := by
  induction text generalizing front with
  | nil =>
    refine ⟨by simp [firstOnLine], ?_⟩
    rintro ⟨target, shape, -, here, -⟩
    rw [(List.append_eq_nil_iff.mp shape.symm).2, silent] at here
    cases here
  | cons c rest ih =>
    cases front with
    | nil =>
      constructor
      · intro reached
        refine ⟨c :: rest, rfl, List.not_mem_nil, ?_, by simp⟩
        unfold firstOnLine at reached
        split at reached
        next here =>
          cases reached
          exact here
        next =>
          split at reached
          next => cases reached
          next => simp at reached
      · rintro ⟨_, rfl, -, here, -⟩
        rw [firstOnLine, here]
    | cons d front =>
      constructor
      · intro reached
        unfold firstOnLine at reached
        split at reached
        next => cases reached
        next missed =>
          split at reached
          next => cases reached
          next feed =>
            obtain ⟨⟨_, _⟩, later, same⟩ := Option.map_eq_some_iff.mp reached
            cases same
            obtain ⟨target, rfl, whole, here, first⟩ := ih.mp later
            refine ⟨target, rfl, List.not_mem_cons_of_ne_of_not_mem (Ne.symm feed) whole, here, ?_⟩
            intro before back parts some
            cases before with
            | nil =>
              rw [List.nil_append] at parts
              rwa [← parts]
            | cons _ before => exact first before back (List.cons.inj parts).2 some
      · rintro ⟨target, shape, whole, here, first⟩
        obtain ⟨rfl, rfl⟩ := List.cons.inj shape
        have missed : read (c :: (front ++ target)) = none := first [] (c :: front) rfl (List.cons_ne_nil _ _)
        have feed : c ≠ '\n' := fun same => whole (same ▸ List.mem_cons_self)
        have later : firstOnLine read (front ++ target) = some (front, found) :=
          ih.mpr ⟨target, rfl, fun member => whole (List.mem_cons_of_mem _ member), here,
            fun before back parts => first (c :: before) back (by rw [parts]; rfl)⟩
        simp only [firstOnLine, List.append_eq, missed, feed, if_false, later, Option.map_some]

/-! ### Files -/

theorem loaderFile_eq (read text : List Char) : loaderFile read text = (firstOnLine loaderPosition text).map
    fun (tail, line, column, message) => ⟨read.reverse ++ tail, line, column, message⟩ := by
  induction text generalizing read with
  | nil => rfl
  | cons c rest ih =>
    rw [loaderFile, firstOnLine]
    cases loaderPosition (c :: rest) with
    | some place => simp
    | none =>
      by_cases feed : c = '\n'
      · simp [feed]
      · simp [feed, ih, Function.comp_def]

/-- Any name will do that a position follows on its line, for only one position on a line ends it. -/
theorem loaderFile_eq_some {read text file line column message : List Char} :
    loaderFile read text = some ⟨file, line, column, message⟩ ↔ ∃ tail position, file = read.reverse ++ tail ∧
      text = tail ++ position ∧ '\n' ∉ tail ∧ loaderPosition position = some (line, column, message) := by
  rw [loaderFile_eq, Option.map_eq_some_iff]
  constructor
  · rintro ⟨⟨tail, _⟩, reached, same⟩
    cases same
    obtain ⟨position, rfl, whole, placed, -⟩ := (firstOnLine_eq_some rfl).mp reached
    exact ⟨tail, position, rfl, rfl, whole, placed⟩
  · rintro ⟨tail, position, rfl, rfl, whole, placed⟩
    refine ⟨(tail, line, column, message), (firstOnLine_eq_some rfl).mpr ⟨position, rfl, whole, placed, ?_⟩, rfl⟩
    obtain ⟨blanks, ending, rfl, -⟩ := loaderPosition_eq_some.mp placed
    rintro before back rfl some
    exact loaderPosition_before some (fun feed => whole (List.mem_append_right _ feed)) _

/-- A file name as a headline may give it: on one line, and no space in front. -/
structure FileName (file : List Char) : Prop where
  opens : ∃ c, file.head? = some c ∧ isSpace c = false
  whole : '\n' ∉ file

/-- What stands between the word that announces the file and the file. -/
structure Gap (gap : List Char) : Prop where
  wide : gap ≠ []
  space : ∀ c ∈ gap, isSpace c = true

theorem loaderTarget_eq_some {text file line column message : List Char} :
    loaderTarget text = some ⟨file, line, column, message⟩ ↔ ∃ space gap position,
      text = space :: 'i' :: 'n' :: (gap ++ (file ++ position)) ∧ isSpace space = true ∧ Gap gap ∧ FileName file ∧
        loaderPosition position = some (line, column, message) := by
  constructor
  · intro found
    unfold loaderTarget announced at found
    split at found
    next first rest announced =>
      split at announced
      next space after behind =>
        split at announced
        next spaced =>
          rw [Bool.and_eq_true] at spaced
          obtain ⟨tail, position, rfl, rfl, whole, placed⟩ := loaderFile_eq_some.mp found
          have left := Option.some.inj announced
          have solid : isSpace first = false := dropWhile_head behind first (by rw [left]; rfl)
          refine ⟨space, after :: behind.takeWhile isSpace, position, ?_, spaced.1, ⟨List.cons_ne_nil _ _, ?_⟩,
            ⟨⟨first, rfl, solid⟩, ?_⟩, placed⟩
          · have parts : behind.takeWhile isSpace ++ behind.dropWhile isSpace = behind := List.takeWhile_append_dropWhile
            rw [left] at parts
            exact congrArg (fun behind => space :: 'i' :: 'n' :: after :: behind) parts.symm
          · intro c member
            rcases List.mem_cons.mp member with rfl | later
            · exact spaced.2
            · exact List.mem_takeWhile_imp later
          · refine List.not_mem_cons_of_ne_of_not_mem ?_ whole
            rintro rfl
            exact absurd solid (by decide)
        next => cases announced
      next => cases announced
    next => cases found
  · rintro ⟨space, gap, position, rfl, spaced, ⟨wide, spaces⟩, ⟨⟨first, opens, solid⟩, whole⟩, placed⟩
    obtain ⟨after, gap, rfl⟩ := List.exists_cons_of_ne_nil wide
    obtain ⟨tail, rfl⟩ := List.head?_eq_some_iff.mp opens
    obtain ⟨afterSpace, spaces⟩ := List.forall_mem_cons.mp spaces
    have stops : ∀ c, (first :: (tail ++ position)).head? = some c → isSpace c = false := by simpa using solid
    have left := (takeWhile_stops spaces stops).2
    have found : announced (space :: 'i' :: 'n' :: (after :: gap ++ (first :: tail ++ position))) =
        some (first :: (tail ++ position)) := by
      simp only [announced, List.cons_append, spaced, afterSpace, Bool.and_self, if_true, left]
    rw [loaderTarget, found]
    exact loaderFile_eq_some.mpr ⟨tail, position, rfl, rfl, fun feed => whole (List.mem_cons_of_mem _ feed), placed⟩

/-! ### Headlines -/

theorem loaderHeadline_eq (text : List Char) : loaderHeadline text = (firstOnLine loaderTarget text).map Prod.snd := by
  induction text with
  | nil => rfl
  | cons c rest ih =>
    rw [loaderHeadline, firstOnLine]
    cases loaderTarget (c :: rest) with
    | some location => simp
    | none =>
      by_cases feed : c = '\n'
      · simp [feed]
      · simp [feed, ih, Function.comp_def]

/-- The word that counts is the first one with a file behind it. -/
theorem loaderHeadline_eq_some {text : List Char} {location : Location} :
    loaderHeadline text = some location ↔ ∃ lead target, text = lead ++ target ∧ '\n' ∉ lead ∧
      loaderTarget target = some location ∧
      ∀ front back, lead = front ++ back → back ≠ [] → loaderTarget (back ++ target) = none := by
  have silent : loaderTarget [] = none := rfl
  simp only [loaderHeadline_eq, Option.map_eq_some_iff, Prod.exists, exists_eq_right, firstOnLine_eq_some silent]

/-- What stands in the brackets of a headline. -/
structure Tag (tag : List Char) : Prop where
  named : tag ≠ []
  tagged : ∀ c ∈ tag, isTagCharacter c = true

theorem loaderLine_eq_some {text : List Char} {location : Location} : loaderLine text = some location ↔
    ∃ tag headline, text = '[' :: (tag ++ ']' :: headline) ∧ Tag tag ∧ loaderHeadline headline = some location := by
  constructor
  · intro found
    unfold loaderLine at found
    split at found
    next rest =>
      have parts : rest.takeWhile isTagCharacter ++ rest.dropWhile isTagCharacter = rest := List.takeWhile_append_dropWhile
      have all : ∀ c ∈ rest.takeWhile isTagCharacter, isTagCharacter c = true := fun _ => List.mem_takeWhile_imp
      split at found
      next named behind =>
        rw [behind] at parts
        exact ⟨_, _, by rw [parts], ⟨by rw [named]; exact List.cons_ne_nil _ _, all⟩, found⟩
      next => cases found
    next => cases found
  · rintro ⟨tag, headline, rfl, ⟨named, tagged⟩, found⟩
    have stops : ∀ c, (']' :: headline).head? = some c → isTagCharacter c = false := by simpa using by decide
    obtain ⟨taken, dropped⟩ := takeWhile_stops tagged stops
    obtain ⟨first, later, rfl⟩ := List.exists_cons_of_ne_nil named
    simp only [loaderLine, taken, dropped, found]

/-- Lines that do not open a headline are passed over. -/
theorem loader_line {line rest : List Char} (whole : '\n' ∉ line) (unbracketed : line.head? ≠ some '[') :
    loader (line ++ '\n' :: rest) = loader rest := by
  have cut := cutLine_line whole rest
  have other : loaderLine (line ++ '\n' :: rest) = none := loaderLine_eq_none (by rwa [cut])
  rw [loader, other]
  simp only
  split
  next none => rw [cut] at none; cases none
  next behind found =>
    rw [cut] at found
    rw [Option.some.inj found]

theorem loader_lines {earlier : List String}
    (unbracketed : ∀ row ∈ earlier, '\n' ∉ row.toList ∧ row.toList.head? ≠ some '[') (rest : List Char) :
    loader (earlier.flatMap (fun row => row.toList ++ ['\n']) ++ rest) = loader rest := by
  induction earlier with
  | nil => rfl
  | cons row later ih =>
    obtain ⟨⟨whole, first⟩, others⟩ := List.forall_mem_cons.mp unbracketed
    rw [List.flatMap_cons, List.append_assoc, List.append_assoc, List.singleton_append, loader_line whole first, ih others]

/-- A headline as loaders print it, up to the end of its line. The word that announces the file is the only one of its kind
in front of it; behind it there may be more of them, and all that looks like positions. -/
structure Headline where
  tag : String
  lead : String
  file : String
  line : String
  column : String
  blanks : String
  tagged : tag ≠ ""
  enclosed : ']' ∉ tag.toList ∧ '\n' ∉ tag.toList
  whole : '\n' ∉ lead.toList
  only : ∀ front before after back, lead.toList ++ [' ', 'i', 'n', ' '] = front ++ before :: 'i' :: 'n' :: after :: back →
    isSpace before = true → isSpace after = true → front = lead.toList
  named : FileName file.toList
  lined : line ≠ ""
  lines : ∀ c ∈ line.toList, isAsciiDigit c = true
  columned : column ≠ ""
  columns : ∀ c ∈ column.toList, isAsciiDigit c = true
  blank : ∀ c ∈ blanks.toList, c = ' ' ∨ c = '\t'

namespace Headline

def text (headline : Headline) : String :=
  "[" ++ headline.tag ++ "]" ++ headline.lead ++ " in " ++ headline.file ++ "(" ++ headline.line ++ "," ++
    headline.column ++ ")" ++ headline.blanks

variable (headline : Headline)

theorem positioned : Positioned headline.line.toList headline.column.toList headline.blanks.toList where
  line := ⟨by simpa using headline.lined, fun c member => isDigit_of_ascii (headline.lines c member)⟩
  column := ⟨by simpa using headline.columned, fun c member => isDigit_of_ascii (headline.columns c member)⟩
  blank := fun c member => by simpa only [isTabOrBlank, Bool.or_eq_true, decide_eq_true_eq] using headline.blank c member

theorem opens : Tag headline.tag.toList where
  named := by simpa using headline.tagged
  tagged := by
    obtain ⟨bracket, feed⟩ := headline.enclosed
    intro c member
    simp only [isTagCharacter, Bool.and_eq_true, bne_iff_ne, ne_eq]
    exact ⟨fun same => bracket (same ▸ member), fun same => feed (same ▸ member)⟩

/-- The headline without its tag, and what comes behind it. -/
theorem toList_text (ending : List Char) : headline.text.toList ++ ending = '[' :: (headline.tag.toList ++ ']' ::
    (headline.lead.toList ++ ' ' :: 'i' :: 'n' :: ([' '] ++ (headline.file.toList ++
      (positionText headline.line.toList headline.column.toList headline.blanks.toList ++ ending))))) := by
  unfold text positionText
  simp

/-- No word in front of the right one has a file behind it: it would be announced between spaces as well. -/
theorem loaderTarget_lead {front back : List Char} (split : headline.lead.toList = front ++ back) (some : back ≠ [])
    (rest : List Char) : loaderTarget (back ++ ' ' :: 'i' :: 'n' :: ' ' :: rest) = none := by
  rw [Option.eq_none_iff_forall_ne_some]
  rintro ⟨file, line, column, message⟩ found
  obtain ⟨space, gap, position, shape, spaced, ⟨wide, spaces⟩, -, -⟩ := loaderTarget_eq_some.mp found
  obtain ⟨after, gap, rfl⟩ := List.exists_cons_of_ne_nil wide
  obtain ⟨first, later, rfl⟩ := List.exists_cons_of_ne_nil some
  have four : (first :: later ++ [' ', 'i', 'n', ' ']).take 4 = [space, 'i', 'n', after] := by
    have opening := congrArg (List.take 4) shape
    rw [show first :: later ++ ' ' :: 'i' :: 'n' :: ' ' :: rest = first :: later ++ [' ', 'i', 'n', ' '] ++ rest by simp,
      List.take_append_of_le_length (by simp)] at opening
    simpa using opening
  have parts : headline.lead.toList ++ [' ', 'i', 'n', ' '] =
      front ++ space :: 'i' :: 'n' :: after :: (first :: later ++ [' ', 'i', 'n', ' ']).drop 4 := by
    rw [split, List.append_assoc, ← List.take_append_drop 4 (first :: later ++ [' ', 'i', 'n', ' ']), four]
    rfl
  have same := headline.only _ _ _ _ parts spaced (spaces after List.mem_cons_self)
  rw [same] at split
  exact some (List.append_right_eq_self.mp split.symm)

theorem loader_text {ending message : List Char} (ends : EndsLine ending message) : loader (headline.text.toList ++ ending) =
    some ⟨headline.file.toList, headline.line.toList, headline.column.toList, message⟩ := by
  have placed := loaderPosition_eq_some.mpr ⟨_, ending, rfl, headline.positioned, ends⟩
  have target := loaderTarget_eq_some.mpr
    ⟨' ', [' '], _, rfl, by decide, ⟨by simp, by simpa using by decide⟩, headline.named, placed⟩
  have headed := loaderHeadline_eq_some.mpr
    ⟨headline.lead.toList, _, rfl, headline.whole, target, fun _ _ split some => headline.loaderTarget_lead split some _⟩
  have lined := loaderLine_eq_some.mpr ⟨headline.tag.toList, _, rfl, headline.opens, headed⟩
  rw [headline.toList_text, loader, lined]

end Headline

/-- Behind any number of lines that do not begin with a bracket, a headline gives its file, line and column to the
diagnostic, whatever its file name looks like, and the text behind its line for the message. No other dialect is asked. -/
theorem headline_is_diagnosed (headline : Headline) {earlier : List String}
    (unbracketed : ∀ row ∈ earlier, '\n' ∉ row.toList ∧ row.toList.head? ≠ some '[') {ending body : String}
    (ends : EndsLine ending.toList body.toList) (severity : Severity) (root : Path) :
    let problem := String.join (earlier.map (· ++ "\n")) ++ headline.text ++ ending
    loader problem.toList = some ⟨headline.file.toList, headline.line.toList, headline.column.toList, body.toList⟩ ∧
    ∃ diagnostic, diagnose severity problem root = some diagnostic ∧ diagnostic.file = resolve ⟨headline.file⟩ root ∧
      diagnostic.span.start.line.toNat = min (Nat.ofDigitChars 10 headline.line.toList 0) (UInt32.size - 1) - 1 ∧
      diagnostic.span.start.character.toNat = min (Nat.ofDigitChars 10 headline.column.toList 0) (UInt32.size - 1) - 1 ∧
      diagnostic.message = body ∧ diagnostic.severity = severity := by
  intro problem
  have shape : problem.toList = earlier.flatMap (fun row => row.toList ++ ['\n']) ++ (headline.text.toList ++ ending.toList) := by
    simp [problem, List.flatMap_map]
  have found : loader problem.toList =
      some ⟨headline.file.toList, headline.line.toList, headline.column.toList, body.toList⟩ := by
    rw [shape, loader_lines unbracketed, headline.loader_text ends]
  refine ⟨found, _, by rw [diagnose, locate, found]; rfl, ?_, ?_, ?_, ?_, rfl⟩
  · simp only [Location.diagnostic, String.ofList_toList]
  · simp only [Location.diagnostic, Span.point, fromZero_toNat, number_toNat headline.lines]
  · simp only [Location.diagnostic, Span.point, fromZero_toNat, number_toNat headline.columns]
  · simp only [Location.diagnostic, String.ofList_toList]

/-- A headline with a word that is none of the kind, and a file name with two that are and something like a position. -/
def crowdedHeadline : Headline where
  tag := "tsl"
  lead := " ] in: ERROR"
  file := "src/in (1,2) in c in d.ts"
  line := "0"
  column := "4294967297"
  blanks := " \t"
  tagged := by decide
  enclosed := by decide
  whole := by decide
  only := by
    intro front before after back split spaced afterSpaced
    simp [List.cons_eq_append_iff] at split
    obtain ⟨_, rfl, ⟨rfl, rfl, rfl, rfl⟩ | ⟨rfl, -⟩⟩ := split
    · exact absurd afterSpaced (by decide)
    · rfl
  named := ⟨⟨'s', rfl, by decide⟩, by decide⟩
  lined := by decide
  lines := List.all_eq_true.mp (by decide)
  columned := by decide
  columns := List.all_eq_true.mp (by decide)
  blank := fun c member => by simpa using member

theorem crowded_headline_is_diagnosed : ∃ diagnostic,
    diagnose .error ("./a.js 5:8\n\n[tsl] ] in: ERROR in src/in (1,2) in c in d.ts(0,4294967297) \t\r\n" ++
      "  TS1\n[tsl] ERROR in b.ts(3,4)") ⟨"/p/q"⟩ = some diagnostic ∧
    diagnostic.file = ⟨"/p/q/src/in (1,2) in c in d.ts"⟩ ∧ diagnostic.span.start.line.toNat = 0 ∧
    diagnostic.span.start.character.toNat = 4294967294 ∧ diagnostic.message = "  TS1\n[tsl] ERROR in b.ts(3,4)" := by
  have unbracketed : ∀ row ∈ ["./a.js 5:8", ""], '\n' ∉ row.toList ∧ row.toList.head? ≠ some '[' := by decide
  have ends : EndsLine "\r\n  TS1\n[tsl] ERROR in b.ts(3,4)".toList "  TS1\n[tsl] ERROR in b.ts(3,4)".toList := .returned _
  obtain ⟨-, diagnostic, found, file, line, column, message, -⟩ :=
    headline_is_diagnosed crowdedHeadline unbracketed ends .error ⟨"/p/q"⟩
  exact ⟨diagnostic, found, file.trans (by decide +kernel), line, column, message⟩

end BuildWatch.Dialect
