import BuildWatch.Proofs.DialectHeadlines

/-! The lines a place is read from. What stands in whole lines is read the same way whatever follows them, so a dialect that
is done within a line needs no other. But line feeds pass for spaces: the word that announces a file may stand between two
lines, and a position may open the second line of a problem. Then one line alone does not tell the place. -/

namespace BuildWatch.Dialect
open BuildWatch.Text

/-! ### Whole lines -/

/-- A text behind which a line may begin. -/
def LineBegins (before : List Char) : Prop := before = [] ∨ ∃ front, before = front ++ ['\n']

/-- A text that keeps its lines when `after` follows. -/
def Closed (text after : List Char) : Prop := after = [] ∨ ∃ front, text = front ++ ['\n']

/-- The first line of a text, with its end, and what follows. -/
inductive FirstLine : List Char → List Char → Prop
  | ended {line : List Char} (whole : '\n' ∉ line) (after : List Char) : FirstLine (line ++ ['\n']) after
  | last {line : List Char} (whole : '\n' ∉ line) (some : line ≠ []) : FirstLine line []

theorem exists_firstLine {text : List Char} (some : text ≠ []) : ∃ line after, text = line ++ after ∧ FirstLine line after := by
  by_cases feed : '\n' ∈ text
  · obtain ⟨line, after, rfl, whole⟩ := List.eq_append_cons_of_mem feed
    exact ⟨line ++ ['\n'], after, List.append_cons .., .ended whole after⟩
  · exact ⟨text, [], (List.append_nil text).symm, .last feed some⟩

theorem FirstLine.alone {line after : List Char} (first : FirstLine line after) : FirstLine line [] := by
  cases first with
  | ended whole => exact .ended whole []
  | last whole some => exact .last whole some

theorem FirstLine.closed {line after : List Char} (first : FirstLine line after) : Closed line after := by
  cases first with
  | ended => exact .inr ⟨_, rfl⟩
  | last => exact .inl rfl

theorem cutLine_rest {text rest : List Char} (cut : (cutLine text).2 = some rest) : text = (cutLine text).1 ++ '\n' :: rest := by
  induction text with
  | nil => cases cut
  | cons c text ih =>
    by_cases feed : c = '\n'
    · simp only [cutLine, feed, if_true, Option.some.injEq] at cut ⊢
      rw [cut, List.nil_append]
    · simp only [cutLine, feed, if_false] at cut ⊢
      rw [List.cons_append, ← ih cut]

theorem FirstLine.cutLine {line after : List Char} (first : FirstLine line after) :
    (cutLine (line ++ after)).2.getD [] = after := by
  cases first with
  | ended whole =>
    rw [List.append_assoc, List.singleton_append, cutLine_line whole]
    rfl
  | last whole =>
    rw [List.append_nil]
    cases cut : (Text.cutLine line).2 with
    | none => rfl
    | some rest =>
      rw [cutLine_rest cut] at whole
      exact absurd (List.mem_append_right _ List.mem_cons_self) whole

theorem FirstLine.ne_nil {line after : List Char} (first : FirstLine line after) : line ≠ [] := by
  cases first with
  | ended => simp
  | last _ some => exact some

/-- A line feed within a line is its end. -/
theorem FirstLine.feed {front rest after : List Char} (first : FirstLine (front ++ '\n' :: rest) after) : rest = [] := by
  generalize shape : front ++ '\n' :: rest = line at first
  cases first with
  | ended whole =>
    rcases List.eq_nil_or_concat rest with none | ⟨within, last, rfl⟩
    · exact none
    · rw [List.concat_eq_append, ← List.cons_append, ← List.append_assoc] at shape
      obtain ⟨rfl, -⟩ := List.append_inj' shape rfl
      exact absurd (List.mem_append_right _ List.mem_cons_self) whole
  | last whole => exact absurd (shape ▸ List.mem_append_right _ List.mem_cons_self) whole

theorem Closed.mono {front text after : List Char} (closed : Closed (front ++ text) after) (kept : text ≠ [] ∨ '\n' ∉ front) :
    Closed text after := by
  rcases closed with rfl | ⟨lines, feed⟩
  · exact .inl rfl
  · rcases List.eq_nil_or_concat text with rfl | ⟨within, last, rfl⟩
    · rw [List.append_nil] at feed
      have member : '\n' ∈ front := feed ▸ List.mem_append_right _ List.mem_cons_self
      exact absurd member (kept.resolve_left fun some => some rfl)
    · rw [List.concat_eq_append, ← List.append_assoc] at feed
      obtain ⟨-, same⟩ := List.append_inj' feed rfl
      exact .inr ⟨within, by rw [List.concat_eq_append, same]⟩

theorem Closed.prepend {text after : List Char} (closed : Closed text after) (front : List Char) :
    Closed (front ++ text) after := by
  rcases closed with rfl | ⟨lines, rfl⟩
  · exact .inl rfl
  · exact .inr ⟨front ++ lines, (List.append_assoc ..).symm⟩

/-- A run that stops at the end of a line is not concerned by what follows. -/
theorem Closed.runs {text after : List Char} (closed : Closed text after) {p : Char → Bool} (stops : p '\n' = false) :
    (text ++ after).takeWhile p = text.takeWhile p ∧ (text ++ after).dropWhile p = text.dropWhile p ++ after := by
  rcases closed with rfl | ⟨front, rfl⟩
  · simp
  · induction front with
    | nil => simp [stops]
    | cons c front ih =>
      rw [List.append_assoc, List.singleton_append] at ih
      cases run : p c <;> simp [run, ih]

/-! ### Headlines in whole lines -/

theorem EndsLine.append {ending message after : List Char} (ends : EndsLine ending message) (kept : ending ≠ [] ∨ after = []) :
    EndsLine (ending ++ after) (message ++ after) := by
  cases ends with
  | done =>
    rw [kept.resolve_left fun some => some rfl]
    exact .done
  | feed => exact .feed _
  | returned => exact .returned _

theorem Positioned.not_mem_positionText {line column blanks : List Char} (positioned : Positioned line column blanks) :
    '\n' ∉ positionText line column blanks :=
  List.not_mem_cons_of_ne_of_not_mem (by decide) (positioned.not_mem (by decide) (by decide) (by decide) (by decide))

theorem loaderPosition_append {text after line column message : List Char} (closed : Closed text after)
    (found : loaderPosition text = some (line, column, message)) :
    loaderPosition (text ++ after) = some (line, column, message ++ after) := by
  obtain ⟨blanks, ending, rfl, positioned, ends⟩ := loaderPosition_eq_some.mp found
  have whole := positioned.not_mem_positionText
  have kept : ending ≠ [] ∨ after = [] := by
    rcases closed.mono (.inr whole) with none | ⟨front, shape⟩
    · exact .inr none
    · exact .inl (by simp [shape])
  exact loaderPosition_eq_some.mpr ⟨blanks, ending ++ after, List.append_assoc .., positioned, ends.append kept⟩

theorem loaderTarget_append {text after file line column message : List Char} (closed : Closed text after)
    (found : loaderTarget text = some ⟨file, line, column, message⟩) :
    loaderTarget (text ++ after) = some ⟨file, line, column, message ++ after⟩ := by
  obtain ⟨space, gap, position, rfl, spaced, gapped, named, placed⟩ := loaderTarget_eq_some.mp found
  have kept : position ≠ [] := by
    rintro rfl
    cases placed
  have parts : space :: 'i' :: 'n' :: (gap ++ (file ++ position)) = (space :: 'i' :: 'n' :: (gap ++ file)) ++ position := by simp
  rw [parts] at closed
  exact loaderTarget_eq_some.mpr
    ⟨space, gap, position ++ after, by simp, spaced, gapped, named, loaderPosition_append (closed.mono (.inl kept)) placed⟩

theorem isSome_loaderHeadline {lead target : List Char} (whole : '\n' ∉ lead) (targeted : (loaderTarget target).isSome) :
    (loaderHeadline (lead ++ target)).isSome := by
  induction lead with
  | nil =>
    cases target with
    | nil => cases targeted
    | cons c rest =>
      obtain ⟨location, found⟩ := Option.isSome_iff_exists.mp targeted
      rw [List.nil_append, loaderHeadline, found]
      rfl
  | cons c lead ih =>
    have feed : c ≠ '\n' := fun same => whole (same ▸ List.mem_cons_self)
    rw [List.cons_append, loaderHeadline]
    split
    next => rfl
    next => simpa only [feed, if_false] using ih fun member => whole (List.mem_cons_of_mem c member)

/-- Further text cannot hide a headline. -/
theorem isSome_loaderLine_append {text after : List Char} (closed : Closed text after) (found : (loaderLine text).isSome) :
    (loaderLine (text ++ after)).isSome := by
  obtain ⟨location, lined⟩ := Option.isSome_iff_exists.mp found
  obtain ⟨tag, _, rfl, tagged, headed⟩ := loaderLine_eq_some.mp lined
  obtain ⟨lead, target, rfl, whole, targeted, -⟩ := loaderHeadline_eq_some.mp headed
  have kept : target ≠ [] := by
    intro none
    rw [none] at targeted
    cases targeted
  have parts : '[' :: (tag ++ ']' :: (lead ++ target)) = ('[' :: (tag ++ ']' :: lead)) ++ target := by simp
  rw [parts] at closed
  have later := loaderTarget_append (closed.mono (.inl kept)) targeted
  have goes := isSome_loaderHeadline whole (Option.isSome_of_eq_some later)
  obtain ⟨other, headed⟩ := Option.isSome_iff_exists.mp goes
  exact Option.isSome_of_eq_some (loaderLine_eq_some.mpr ⟨tag, lead ++ (target ++ after), by simp, tagged, headed⟩)

theorem loader_eq_some {text : List Char} {location : Location} (found : loader text = some location) :
    ∃ before rest, text = before ++ rest ∧ LineBegins before ∧ loaderLine rest = some location := by
  fun_induction loader text with
  | case1 text here lined => exact ⟨[], text, rfl, .inl rfl, by rw [lined, found]⟩
  | case2 => cases found
  | case3 text _ rest cut ih =>
    obtain ⟨before, behind, rfl, begins, lined⟩ := ih found
    refine ⟨(cutLine text).1 ++ '\n' :: before, behind, ?_, .inr ?_, lined⟩
    · rw [List.append_assoc, List.cons_append, ← cutLine_rest cut]
    · rcases begins with rfl | ⟨front, rfl⟩
      · exact ⟨_, rfl⟩
      · exact ⟨(cutLine text).1 ++ '\n' :: front, by simp⟩

theorem isSome_loader {text : List Char} (found : (loaderLine text).isSome) : (loader text).isSome := by
  obtain ⟨location, lined⟩ := Option.isSome_iff_exists.mp found
  rw [loader, lined]
  rfl

/-- A line in which no headline is found in a text is no headline alone. -/
theorem loader_firstLine {line after : List Char} (first : FirstLine line after) (missed : loader (line ++ after) = none) :
    loader line = none := by
  rw [Option.eq_none_iff_forall_ne_some]
  intro location found
  obtain ⟨before, rest, rfl, rfl | ⟨front, rfl⟩, lined⟩ := loader_eq_some found
  · have goes := isSome_loader (isSome_loaderLine_append first.closed (Option.isSome_of_eq_some lined))
    rw [List.nil_append] at missed goes
    rw [missed] at goes
    cases goes
  · rw [List.append_assoc, List.singleton_append] at first
    rw [first.feed] at lined
    cases lined

/-- A headline as it stands in a text, with the end of its line. -/
structure Announcement where
  tag : List Char
  lead : List Char
  space : Char
  gap : List Char
  file : List Char
  line : List Char
  column : List Char
  blanks : List Char
  ending : List Char
  tagged : Tag tag
  whole : '\n' ∉ lead
  spaced : isSpace space = true
  gapped : Gap gap
  named : FileName file
  positioned : Positioned line column blanks
  ends : EndsLine ending []

namespace Announcement
variable (announcement : Announcement)

/-- From the word that announces the file to the end of the position. -/
def target : List Char := announcement.space :: 'i' :: 'n' :: (announcement.gap ++
  (announcement.file ++ positionText announcement.line announcement.column announcement.blanks))

def opening : List Char := '[' :: (announcement.tag ++ ']' :: announcement.lead)

def text : List Char := announcement.opening ++ (announcement.target ++ announcement.ending)

/-- The word that announces the file stands at the beginning of a line or at the end of one. -/
def Split : Prop := '\n' ∈ announcement.space :: announcement.gap

theorem not_mem_opening : '\n' ∉ announcement.opening := by
  have tag : '\n' ∉ announcement.tag := fun feed => absurd (announcement.tagged.tagged _ feed) (by decide)
  simp [opening, tag, announcement.whole]

theorem not_mem_target (joined : ¬ announcement.Split) : '\n' ∉ announcement.target := by
  obtain ⟨space, gap⟩ := not_or.mp fun feed => joined (List.mem_cons.mpr feed)
  have position : '\n' ∉ positionText announcement.line announcement.column announcement.blanks :=
    announcement.positioned.not_mem_positionText
  simp [target, space, gap, announcement.named.whole, position]

variable {announcement} {after : List Char}

/-- Unless the word stands between two lines, the headline is one. -/
theorem firstLine (joined : ¬ announcement.Split) (closed : Closed announcement.ending after) :
    FirstLine announcement.text after := by
  have whole : '\n' ∉ announcement.opening ++ announcement.target :=
    fun feed => (List.mem_append.mp feed).elim announcement.not_mem_opening (announcement.not_mem_target joined)
  have ends := announcement.ends
  rw [text, ← List.append_assoc]
  generalize announcement.ending = ending at ends closed ⊢
  cases ends with
  | done =>
    rcases closed with rfl | ⟨front, feed⟩
    · rw [List.append_nil]
      exact .last whole (by simp [opening])
    · simp at feed
  | feed => exact .ended whole after
  | returned =>
    rw [← List.singleton_append, ← List.append_assoc]
    refine .ended (fun feed => ?_) after
    rcases List.mem_append.mp feed with inside | other
    · exact whole inside
    · exact absurd other (by decide)

/-- A word in front of the right one that has no file behind it gets none by what follows the headline being left out. -/
theorem loader_text (closed : Closed announcement.ending after)
    (first : ∀ front back, announcement.lead = front ++ back → back ≠ [] →
      loaderTarget (back ++ (announcement.target ++ (announcement.ending ++ after))) = none) :
    loader announcement.text = some ⟨announcement.file, announcement.line, announcement.column, []⟩ := by
  have placed := loaderPosition_eq_some.mpr ⟨_, _, rfl, announcement.positioned, announcement.ends⟩
  have targeted : loaderTarget (announcement.target ++ announcement.ending) =
      some ⟨announcement.file, announcement.line, announcement.column, []⟩ :=
    loaderTarget_eq_some.mpr ⟨announcement.space, announcement.gap, _, by simp [target], announcement.spaced,
      announcement.gapped, announcement.named, placed⟩
  have alone (front back : List Char) (split : announcement.lead = front ++ back) (some : back ≠ []) :
      loaderTarget (back ++ (announcement.target ++ announcement.ending)) = none := by
    rw [Option.eq_none_iff_forall_ne_some]
    rintro ⟨file, line, column, message⟩ found
    have further := loaderTarget_append ((closed.prepend announcement.target).prepend back) found
    rw [List.append_assoc, List.append_assoc, first front back split some] at further
    cases further
  have headed := loaderHeadline_eq_some.mpr ⟨announcement.lead, _, rfl, announcement.whole, targeted, alone⟩
  have lined : loaderLine announcement.text = some ⟨announcement.file, announcement.line, announcement.column, []⟩ :=
    loaderLine_eq_some.mpr ⟨announcement.tag, _, by simp [text, opening], announcement.tagged, headed⟩
  rw [loader, lined]

end Announcement

theorem EndsLine.split {ending message : List Char} (ends : EndsLine ending message) :
    ∃ close, ending = close ++ message ∧ EndsLine close [] ∧ Closed close message := by
  cases ends with
  | done => exact ⟨[], rfl, .done, .inl rfl⟩
  | feed => exact ⟨['\n'], rfl, .feed [], .inr ⟨[], rfl⟩⟩
  | returned => exact ⟨['\r', '\n'], rfl, .returned [], .inr ⟨['\r'], rfl⟩⟩

/-- A headline is found as well without the text in front of its line and behind it. -/
theorem loader_announcement {text file line column message : List Char}
    (found : loader text = some ⟨file, line, column, message⟩) :
    ∃ before, ∃ announcement : Announcement, text = before ++ (announcement.text ++ message) ∧ LineBegins before ∧
      Closed announcement.ending message ∧ loader announcement.text = some ⟨file, line, column, []⟩ := by
  obtain ⟨before, _, rfl, begins, lined⟩ := loader_eq_some found
  obtain ⟨tag, _, rfl, tagged, headed⟩ := loaderLine_eq_some.mp lined
  obtain ⟨lead, _, rfl, whole, targeted, first⟩ := loaderHeadline_eq_some.mp headed
  obtain ⟨space, gap, _, rfl, spaced, gapped, named, placed⟩ := loaderTarget_eq_some.mp targeted
  obtain ⟨blanks, _, rfl, positioned, ends⟩ := loaderPosition_eq_some.mp placed
  obtain ⟨ending, rfl, close, closed⟩ := ends.split
  let announcement : Announcement :=
    ⟨tag, lead, space, gap, file, line, column, blanks, ending, tagged, whole, spaced, gapped, named, positioned, close⟩
  refine ⟨before, announcement, ?_, begins, closed, ?_⟩
  · simp [announcement, Announcement.text, Announcement.opening, Announcement.target]
  · refine announcement.loader_text closed fun front back split some => ?_
    have missed := first front back split some
    simpa [announcement, Announcement.target] using missed

/-! ### Positions in whole lines -/

theorem digitsBefore_append {stop : Char} {text after : List Char} (closed : Closed text after) :
    digitsBefore stop (text ++ after) = (digitsBefore stop text).map fun (digits, rest) => (digits, rest ++ after) := by
  obtain ⟨taken, dropped⟩ := closed.runs (by decide : isDigit '\n' = false)
  have parts : text.takeWhile isDigit ++ text.dropWhile isDigit = text := List.takeWhile_append_dropWhile
  have digits : '\n' ∉ text.takeWhile isDigit := fun feed => absurd (List.mem_takeWhile_imp feed) (by decide)
  rw [← parts] at closed
  have left := closed.mono (.inr digits)
  simp only [digitsBefore, taken, dropped]
  cases text.takeWhile isDigit with
  | nil => rfl
  | cons digit later =>
    cases behind : text.dropWhile isDigit with
    | nil =>
      rw [behind] at left
      rcases left with rfl | ⟨front, feed⟩
      · rfl
      · simp at feed
    | cons c rest =>
      by_cases same : c = stop
      · simp [same]
      · simp [same]

/-- Behind a space within a line, a position does not depend on further lines. -/
theorem plainPosition_append {space : Char} {rest after : List Char} (closed : Closed rest after) :
    plainPosition (space :: (rest ++ after)) = plainPosition (space :: rest) := by
  simp only [plainPosition, digitsBefore_append closed]
  cases spaced : isSpace space with
  | false => rfl
  | true =>
    simp only [if_true]
    cases found : digitsBefore ':' rest with
    | none => rfl
    | some place =>
      obtain ⟨line, behind⟩ := place
      obtain ⟨rfl, digits⟩ := (digitsBefore_eq_some (by decide)).mp found
      have left : Closed behind after := by
        have whole : '\n' ∉ line ++ [':'] := by simp [digits.not_mem (by decide : isDigit '\n' = false)]
        rw [List.append_cons] at closed
        exact closed.mono (.inr whole)
      simp only [Option.map_some, (left.runs (by decide : isDigit '\n' = false)).1]

/-- A position that opens the second line of a text, behind a first line that is one word. -/
structure SplitPosition (text file line column rest : List Char) : Prop where
  text : text = file ++ '\n' :: (line ++ ':' :: (column ++ rest))
  word : file ≠ []
  solid : ∀ c ∈ file, isSpace c = false
  line : Digits line
  column : Digits column
  stops : Undigited rest

theorem plainPosition_eq_some {space : Char} {text line column : List Char}
    (found : plainPosition (space :: text) = some (line, column)) :
    ∃ rest, text = line ++ ':' :: (column ++ rest) ∧ Digits line ∧ Digits column ∧ Undigited rest := by
  unfold plainPosition at found
  simp only at found
  split at found
  next =>
    split at found
    next first behind lined =>
      obtain ⟨rfl, line⟩ := (digitsBefore_eq_some (by decide)).mp lined
      have parts : behind.takeWhile isDigit ++ behind.dropWhile isDigit = behind := List.takeWhile_append_dropWhile
      have all : ∀ c ∈ behind.takeWhile isDigit, isDigit c = true := fun _ => List.mem_takeWhile_imp
      split at found
      next => cases found
      next counted =>
        cases found
        exact ⟨behind.dropWhile isDigit, by rw [parts], line, ⟨counted, all⟩, dropWhile_head behind⟩
    next => cases found
  next => cases found

/-- What follows a line concerns the position behind the file only if nothing else is left on the line. -/
theorem plainPosition_line {tail after : List Char} (closed : Closed tail after) (last : ∀ rest, tail = '\n' :: rest → rest = []) :
    plainPosition (tail ++ after) = plainPosition tail ∨
      tail = ['\n'] ∧ ∃ place, plainPosition ('\n' :: after) = some place := by
  cases tail with
  | nil =>
    rcases closed with rfl | ⟨front, feed⟩
    · exact .inl rfl
    · simp at feed
  | cons c rest =>
    by_cases feed : c = '\n'
    · subst feed
      rw [last rest rfl]
      cases found : plainPosition ('\n' :: after) with
      | none => exact .inl found
      | some place => exact .inr ⟨rfl, place, rfl⟩
    · have whole : '\n' ∉ [c] := by simpa using Ne.symm feed
      have kept : Closed rest after := Closed.mono (show Closed ([c] ++ rest) after from closed) (.inr whole)
      exact .inl (plainPosition_append kept)

/-- The plain dialect reads the first line, unless the position opens the second one. Then it finds the file alone there. -/
theorem plain_firstLine {row after file line column message : List Char} (first : FirstLine row after)
    (found : plain (row ++ after) = some ⟨file, line, column, message⟩) :
    message = after ∧ (plain row = some ⟨file, line, column, []⟩ ∨
      (∃ rest, SplitPosition (row ++ after) file line column rest) ∧ row = file ++ ['\n'] ∧
        plain row = some ⟨file, ['1'], ['1'], []⟩) := by
  obtain ⟨taken, dropped⟩ := first.closed.runs (p := fun c => !isSpace c) (by decide)
  have parts : row.takeWhile (fun c => !isSpace c) ++ row.dropWhile (fun c => !isSpace c) = row :=
    List.takeWhile_append_dropWhile
  have solid : ∀ c ∈ row.takeWhile (fun c => !isSpace c), isSpace c = false := fun c member => by
    simpa using List.mem_takeWhile_imp member
  have alone := first.alone.cutLine
  rw [List.append_nil] at alone
  simp only [plain, taken, dropped, first.cutLine, alone] at found ⊢
  generalize row.takeWhile (fun c => !isSpace c) = word, row.dropWhile (fun c => !isSpace c) = tail at found parts solid ⊢
  subst parts
  cases word with
  | nil => cases found
  | cons c word =>
    simp only [Option.some.injEq, Location.mk.injEq] at found ⊢
    obtain ⟨rfl, found⟩ := found
    have whole : '\n' ∉ c :: word := fun feed => absurd (solid _ feed) (by decide)
    have last (rest : List Char) (feed : tail = '\n' :: rest) : rest = [] := by
      rw [feed] at first
      exact first.feed
    rcases plainPosition_line (first.closed.mono (.inr whole)) last with same | ⟨rfl, ⟨before, behind⟩, placed⟩
    · rw [same] at found
      exact ⟨found.2.2.symm, .inl ⟨rfl, found.1, found.2.1, trivial⟩⟩
    · rw [List.singleton_append, placed] at found
      obtain ⟨rfl, rfl, rfl⟩ := found
      obtain ⟨rest, rfl, line, column, stops⟩ := plainPosition_eq_some placed
      refine ⟨rfl, .inr ⟨⟨rest, ?_, List.cons_ne_nil _ _, solid, line, column, stops⟩, rfl, rfl, rfl, rfl, trivial⟩⟩
      rw [List.append_assoc, List.singleton_append]
      rfl

/-! ### Places -/

theorem locate_firstLine {row after file line column message : List Char} (first : FirstLine row after)
    (missed : loader (row ++ after) = none) (found : locate (row ++ after) = some ⟨file, line, column, message⟩) :
    message = after ∧ (locate row = some ⟨file, line, column, []⟩ ∨
      (∃ rest, SplitPosition (row ++ after) file line column rest) ∧ row = file ++ ['\n'] ∧
        locate row = some ⟨file, ['1'], ['1'], []⟩) := by
  rw [locate, missed, Option.none_or] at found
  rw [locate, loader_firstLine first missed, Option.none_or]
  exact plain_firstLine first found

/-- A text that tells the place of a diagnostic without any other text. -/
def TellsPlace (severity : Severity) (root : Path) (text : String) (diagnostic : Diagnostic) : Prop :=
  ∃ alone, diagnose severity text root = some alone ∧ alone.file = diagnostic.file ∧ alone.span = diagnostic.span

theorem tellsPlace_of_locate (severity : Severity) (root : Path) {text file line column : List Char}
    (found : locate text = some ⟨file, line, column, []⟩) (message : List Char) :
    TellsPlace severity root (String.ofList text) (Location.diagnostic ⟨file, line, column, message⟩ severity root) := by
  refine ⟨Location.diagnostic ⟨file, line, column, []⟩ severity root, ?_, rfl, rfl⟩
  rw [diagnose, String.toList_ofList, found, Option.map_some]

/-- One line of a problem tells the place, and what follows it is the message. -/
structure OneLine (severity : Severity) (root : Path) (diagnostic : Diagnostic) (before line after : String) : Prop where
  begins : LineBegins before.toList
  first : FirstLine line.toList after.toList
  alone : TellsPlace severity root line diagnostic
  message : diagnostic.message = after

/-- Several lines of a problem tell the place, since the word that announces the file stands between two of them. -/
structure SplitHeadline (severity : Severity) (root : Path) (diagnostic : Diagnostic) (before : String)
    (announcement : Announcement) (after : String) : Prop where
  begins : LineBegins before.toList
  closed : Closed announcement.ending after.toList
  split : announcement.Split
  alone : TellsPlace severity root (String.ofList announcement.text) diagnostic
  message : diagnostic.message = after

/-- The first line has the file and nothing else. The position comes from the second one, which is in the message as well. -/
structure SplitPlace (severity : Severity) (root : Path) (diagnostic : Diagnostic) (problem : String)
    (file line column rest : List Char) : Prop where
  split : SplitPosition problem.toList file line column rest
  span : diagnostic.span = .point (fromZero (number line)) (fromZero (number column))
  alone : ∃ other, diagnose severity (String.ofList (file ++ ['\n'])) root = some other ∧ other.file = diagnostic.file ∧
    other.span = .point 0 0
  message : diagnostic.message = String.ofList (line ++ ':' :: (column ++ rest))

/-- A text without bracketed lines, the second line of which does not open with a position for the file on the first. -/
structure Undivided (text : List Char) : Prop where
  unbracketed : ∀ row ∈ pieces text, row.head? ≠ some '['
  joined : ∀ file line column rest, ¬ SplitPosition text file line column rest

theorem SplitPosition.space {text file line column rest : List Char} (split : SplitPosition text file line column rest) :
    (text.dropWhile fun c => !isSpace c).head? = some '\n' := by
  have word : ∀ c ∈ file, (!isSpace c) = true := fun c member => by rw [split.solid c member]; rfl
  rw [split.text, List.dropWhile_append_of_pos word]
  rfl

theorem Undivided.oneLine {severity : Severity} {root : Path} {diagnostic : Diagnostic} {line after : String}
    (undivided : Undivided (line ++ after).toList) (first : FirstLine line.toList after.toList)
    (found : diagnose severity (line ++ after) root = some diagnostic) : OneLine severity root diagnostic "" line after := by
  have missed := loader_eq_none undivided.unbracketed
  obtain ⟨⟨file, row, column, message⟩, located, rfl⟩ := Option.map_eq_some_iff.mp found
  rw [String.toList_append] at missed located
  obtain ⟨rfl, alone | ⟨⟨rest, split⟩, -⟩⟩ := locate_firstLine first missed located
  · refine ⟨.inl rfl, first, ?_, String.ofList_toList⟩
    rw [← String.ofList_toList (s := line)]
    exact tellsPlace_of_locate severity root alone _
  · rw [← String.toList_append] at split
    exact absurd split (undivided.joined _ _ _ _)

/-- The place of a problem comes from one line of it, and the message is what follows. The exceptions are a headline whose
word stands between two lines, of which several lines tell the place, and a position behind a file that is alone on the
first line. Without bracketed lines and the latter, it is the first line that tells the place, and one and the same first
line tells the same place of all such problems. -/
theorem place_comes_from_one_line_unless_split {severity : Severity} {problem : String} {root : Path} {diagnostic : Diagnostic}
    (found : diagnose severity problem root = some diagnostic) :
    ((∃ before line after, problem = before ++ line ++ after ∧ OneLine severity root diagnostic before line after) ∨
      (∃ before announcement after, problem = before ++ String.ofList announcement.text ++ after ∧
        SplitHeadline severity root diagnostic before announcement after) ∨
      ∃ file line column rest, SplitPlace severity root diagnostic problem file line column rest) ∧
    (Undivided problem.toList → ∀ line after, problem = line ++ after → FirstLine line.toList after.toList →
      OneLine severity root diagnostic "" line after ∧
      ∀ other second, FirstLine line.toList other.toList → Undivided (line ++ other).toList →
        diagnose severity (line ++ other) root = some second →
          second.file = diagnostic.file ∧ second.span = diagnostic.span) := by
  refine ⟨?_, ?_⟩
  · obtain ⟨⟨file, line, column, message⟩, located, rfl⟩ := Option.map_eq_some_iff.mp found
    have shape {before text after : List Char} (parts : problem.toList = before ++ (text ++ after)) :
        problem = String.ofList before ++ String.ofList text ++ String.ofList after := by
      rw [← String.ofList_toList (s := problem), parts, ← List.append_assoc, String.ofList_append, String.ofList_append]
    cases headed : loader problem.toList with
    | some other =>
      rw [locate, headed, Option.some_or] at located
      cases located
      obtain ⟨before, announcement, parts, begins, closed, alone⟩ := loader_announcement headed
      have told := tellsPlace_of_locate severity root (by rw [locate, alone]; rfl) message
      by_cases split : announcement.Split
      · exact .inr (.inl ⟨_, announcement, _, shape parts, by simpa using begins, by simpa using closed, split, told, rfl⟩)
      · have first := announcement.firstLine split closed
        exact .inl ⟨_, _, _, shape parts, by simpa using begins, by simpa using first, told, rfl⟩
    | none =>
      have nonempty : problem.toList ≠ [] := by
        intro none
        have read := located
        rw [locate, headed, none] at read
        cases read
      obtain ⟨row, after, parts, first⟩ := exists_firstLine nonempty
      rw [parts] at headed located
      obtain ⟨rfl, alone | ⟨⟨rest, split⟩, rfl, alone⟩⟩ := locate_firstLine first headed located
      · have told := tellsPlace_of_locate severity root alone message
        exact .inl ⟨_, _, _, shape (show _ = [] ++ _ from parts), .inl rfl, by simpa using first, told, rfl⟩
      · rw [← parts] at split
        refine .inr (.inr ⟨file, line, column, rest, split, rfl, ?_, ?_⟩)
        · have zero : fromZero (number ['1']) = 0 := by decide
          refine ⟨Location.diagnostic ⟨file, ['1'], ['1'], []⟩ severity root, ?_, rfl, by simp only [Location.diagnostic, zero]⟩
          rw [diagnose, String.toList_ofList, alone, Option.map_some]
        · have behind := split.text
          rw [parts, List.append_assoc, List.singleton_append] at behind
          rw [(List.cons.inj (List.append_cancel_left behind)).2]
          rfl
  · rintro undivided line after rfl first
    have one := undivided.oneLine first found
    refine ⟨one, fun other second firstOther undividedOther foundOther => ?_⟩
    obtain ⟨alone, diagnosed, file, span⟩ := one.alone
    obtain ⟨same, diagnosedSame, fileOther, spanOther⟩ := (undividedOther.oneLine firstOther foundOther).alone
    rw [diagnosed] at diagnosedSame
    cases diagnosedSame
    exact ⟨fileOther.symm.trans file, spanOther.symm.trans span⟩

/-- A position in the first line is safe from what the message says. -/
theorem position_on_first_line_is_kept : ∃ first second,
    diagnose .warning "./a.js 5:8\n6:9 is no good ratio" ⟨"/p"⟩ = some first ∧
    diagnose .warning "./a.js 5:8\nERROR in b.js(1,2)\n" ⟨"/p"⟩ = some second ∧
    OneLine .warning ⟨"/p"⟩ first "" "./a.js 5:8\n" "6:9 is no good ratio" ∧
    second.file = first.file ∧ second.span = first.span := by
  have undivided (after : String) (unbracketed : ∀ row ∈ pieces ("./a.js 5:8\n" ++ after).toList, row.head? ≠ some '[') :
      Undivided ("./a.js 5:8\n" ++ after).toList := by
    refine ⟨unbracketed, fun file line column rest split => ?_⟩
    have feed := split.space
    rw [String.toList_append] at feed
    cases feed
  have line (after : String) : FirstLine "./a.js 5:8\n".toList after.toList :=
    .ended (by decide : '\n' ∉ "./a.js 5:8".toList) after.toList
  have one := undivided "6:9 is no good ratio" (by decide)
  have two := undivided "ERROR in b.js(1,2)\n" (by decide)
  have found : ∃ first, diagnose .warning ("./a.js 5:8\n" ++ "6:9 is no good ratio") ⟨"/p"⟩ = some first :=
    ⟨_, by rw [diagnose, locate, loader_eq_none one.unbracketed]; rfl⟩
  have again : ∃ second, diagnose .warning ("./a.js 5:8\n" ++ "ERROR in b.js(1,2)\n") ⟨"/p"⟩ = some second :=
    ⟨_, by rw [diagnose, locate, loader_eq_none two.unbracketed]; rfl⟩
  obtain ⟨first, found⟩ := found
  obtain ⟨second, again⟩ := again
  obtain ⟨-, law⟩ := place_comes_from_one_line_unless_split found
  obtain ⟨kept, same⟩ := law one _ _ rfl (line _)
  exact ⟨first, second, found, again, kept, same _ second (line _) two again⟩

/-- The first line tells the file alone. With the second one, which is the message, there is a position. -/
theorem message_opens_with_position : ∃ diagnostic,
    diagnose .error "src/index.js\n5:8 is no good ratio" ⟨"/root"⟩ = some diagnostic ∧
    ¬ ∃ before line after, "src/index.js\n5:8 is no good ratio" = before ++ line ++ after ∧
      OneLine .error ⟨"/root"⟩ diagnostic before line after := by
  have whole : loader "src/index.js\n5:8 is no good ratio".toList = none := loader_eq_none (by decide)
  have first : loader "src/index.js\n".toList = none := loader_eq_none (by decide)
  have found : diagnose .error "src/index.js\n5:8 is no good ratio" ⟨"/root"⟩ =
      some ⟨resolve ⟨"src/index.js"⟩ ⟨"/root"⟩, .point 4 7, "5:8 is no good ratio", .error⟩ := by
    rw [diagnose, locate, whole]
    rfl
  refine ⟨_, found, ?_⟩
  rintro ⟨before, line, after, parts, begins, leads, ⟨other, diagnosed, -, span⟩, message⟩
  dsimp only at span message
  subst message
  have opening : "src/index.js".toList ++ ['\n'] = before.toList ++ line.toList := by
    have split := congrArg String.toList parts
    rw [String.toList_append, String.toList_append] at split
    exact List.append_cancel_right (show ("src/index.js".toList ++ ['\n']) ++ "5:8 is no good ratio".toList = _ from split)
  rcases begins with none | ⟨front, feed⟩
  · have same : "src/index.js\n" = line := by
      rw [none, List.nil_append] at opening
      exact String.toList_inj.mp opening
    have alone : diagnose .error "src/index.js\n" ⟨"/root"⟩ =
        some ⟨resolve ⟨"src/index.js"⟩ ⟨"/root"⟩, .point 0 0, "", .error⟩ := by
      rw [diagnose, locate, first]
      rfl
    rw [← same, alone] at diagnosed
    rw [← Option.some.inj diagnosed] at span
    exact absurd span (by decide)
  · have closing : FirstLine (front ++ '\n' :: line.toList) [] := by
      rw [← List.singleton_append, ← List.append_assoc, ← feed, ← opening]
      exact .ended (by decide) []
    rw [closing.feed] at leads
    exact leads.ne_nil rfl

end BuildWatch.Dialect
