import BuildWatch.Text.Class

/-! Cutting text into lines and trimming its ends. A line ends at a line feed;
a carriage return directly before the line feed belongs to the line end. -/

namespace BuildWatch.Text

def dropEndWhile (drop : Char → Bool) (text : List Char) : List Char :=
  (text.reverse.dropWhile drop).reverse

def trimStart (text : List Char) : List Char := text.dropWhile isSpace

def trimEnd (text : List Char) : List Char := dropEndWhile isSpace text

def trim (text : List Char) : List Char := trimEnd (trimStart text)

def isBlank (text : String) : Bool := text.toList.all isSpace

/-- The part before the first line feed, and the part after it when there is one. -/
def cutLine : List Char → List Char × Option (List Char)
  | [] => ([], none)
  | c :: rest =>
    if c = '\n' then ([], some rest)
    else
      let (line, after) := cutLine rest
      (c :: line, after)

theorem cutLine_shorter {text rest : List Char} (found : (cutLine text).2 = some rest) :
    rest.length < text.length := by
  induction text generalizing rest with
  | nil => simp [cutLine] at found
  | cons c tail ih =>
    by_cases newline : c = '\n'
    · simp only [cutLine, newline, if_true, Option.some.injEq] at found
      simp [← found]
    · simp only [cutLine, newline, if_false] at found
      have := ih found
      simp only [List.length_cons]
      omega

/-- Texts that begin differently are different. -/
theorem append_ne_append {front other : String} (size : Nat) (long : size ≤ front.toList.length)
    (wide : size ≤ other.toList.length) (apart : front.toList.take size ≠ other.toList.take size) (back rest : String) :
    front ++ back ≠ other ++ rest := by
  intro same
  have opening := congrArg (fun text => text.toList.take size) same
  simp only [String.toList_append, List.take_append_of_le_length long, List.take_append_of_le_length wide] at opening
  exact apart opening

/-- A run goes as far as the first character that does not belong to it. -/
theorem takeWhile_stops {p : Char → Bool} {front rest : List Char} (all : ∀ c ∈ front, p c = true)
    (stops : ∀ c, rest.head? = some c → p c = false) :
    (front ++ rest).takeWhile p = front ∧ (front ++ rest).dropWhile p = rest := by
  rw [List.takeWhile_append_of_pos all, List.dropWhile_append_of_pos all]
  cases rest with
  | nil => simp
  | cons c rest => simp [stops c rfl]

def dropReturn (line : List Char) : List Char :=
  match line.reverse with
  | '\r' :: front => front.reverse
  | _ => line

/-- The pieces between line feeds; text that ends in a line feed has an empty last piece. -/
def pieces : List Char → List (List Char)
  | [] => [[]]
  | c :: rest =>
    match pieces rest with
    | [] => [[c]]
    | piece :: later => if c = '\n' then [] :: piece :: later else (c :: piece) :: later

/-- The lines without their ends. Only a piece that a line feed closes loses its carriage return,
and an empty last piece is no line. -/
def splitLines (text : List Char) : List (List Char) :=
  go (pieces text)
where
  go : List (List Char) → List (List Char)
    | [] => []
    | [last] => if last.isEmpty then [] else [last]
    | line :: later => dropReturn line :: go later

end BuildWatch.Text
