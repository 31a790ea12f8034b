import BuildWatch.Shell.Pattern

/-! Fields of a shell: what becomes of a word when it has been expanded. Only what comes from an expansion
outside quotes is split. -/

namespace BuildWatch.Shell

/-- A piece of an expanded word. -/
inductive Glyph where
  | plain (c : Char)
  | quoted (c : Char)
  /-- From an expansion outside quotes. -/
  | soft (c : Char)
  /-- A quotation stands here, perhaps an empty one. -/
  | mark
  /-- All the arguments stand here, and there are none. -/
  | void
  /-- One argument ends here and the next begins. -/
  | divide
  deriving DecidableEq, Inhabited

/-- Characters of a field, and whether each one was quoted. -/
abbrev Field : Type := List (Char × Bool)

namespace Field

def text (field : Field) : String := String.ofList (field.map (·.1))

def hasPattern (field : Field) : Bool := field.any fun (c, quoted) => !quoted && "*?[".toList.contains c

/-- The parts between unquoted or quoted slashes. -/
def pieces : Field → List Field
  | [] => [[]]
  | (c, quoted) :: rest =>
    match pieces rest with
    | [] => [[(c, quoted)]]
    | piece :: later => if c = '/' then [] :: piece :: later else ((c, quoted) :: piece) :: later

end Field

namespace Glyph

def ofText (isQuoted : Bool) (text : List Char) : List Glyph :=
  if isQuoted then mark :: text.map quoted else text.map soft

/-- Written characters, seen as part of an expansion. -/
def soften : Glyph → Glyph
  | plain c => soft c
  | glyph => glyph

/-- What stands for a glyph where nothing is split; arguments are put together with a joiner. -/
def chars (joiner : String) : Glyph → List (Char × Bool)
  | plain c => [(c, false)]
  | soft c => [(c, false)]
  | quoted c => [(c, true)]
  | divide => joiner.toList.map fun c => (c, true)
  | mark => []
  | void => []

/-- All of it as one field. -/
def unsplit (joiner : String) (glyphs : List Glyph) : Field := glyphs.flatMap (chars joiner)

/-- A field that is being put together, latest character first. -/
structure Splitting where
  held : Field := []
  marked : Bool := false
  voided : Bool := false
  /-- Blanks have ended the last field, and a separator that follows belongs to them. -/
  afterBlank : Bool := false

namespace Splitting

def fields (splitting : Splitting) : List Field :=
  if !splitting.held.isEmpty || (splitting.marked && !splitting.voided) then [splitting.held.reverse] else []

def add (splitting : Splitting) (c : Char) (isQuoted : Bool) : Splitting :=
  { splitting with held := (c, isQuoted) :: splitting.held, afterBlank := false }

end Splitting

def split (separators : List Char) (splitting : Splitting) : List Glyph → List Field
  | [] => splitting.fields
  | plain c :: rest => split separators (splitting.add c false) rest
  | quoted c :: rest => split separators (splitting.add c true) rest
  | mark :: rest => split separators { splitting with marked := true, afterBlank := false } rest
  | void :: rest => split separators { splitting with voided := true } rest
  | divide :: rest => splitting.fields ++ split separators {} rest
  | soft c :: rest =>
    if !separators.contains c then split separators (splitting.add c false) rest
    else if c = ' ' || c = '\t' || c = '\n' then
      match splitting.fields with
      | [] => split separators splitting rest
      | fields => fields ++ split separators { afterBlank := true } rest
    else if splitting.afterBlank then split separators {} rest
    else
      match splitting.fields with
      | [] => [] :: split separators {} rest
      | fields => fields ++ split separators {} rest

end Glyph

def fieldsOf (separators : List Char) (glyphs : List Glyph) : List Field := Glyph.split separators {} glyphs

/-- Splits input into so many fields at most; the last one takes all that is left. -/
def inputFields (separators : List Char) : Nat → List (Char × Bool) → List String
  | 0, _ => []
  | count + 1, text =>
    let isBlank (glyph : Char × Bool) : Bool :=
      !glyph.2 && separators.contains glyph.1 && (glyph.1 = ' ' || glyph.1 = '\t' || glyph.1 = '\n')
    let text := text.dropWhile isBlank
    match count with
    | 0 => [String.ofList ((text.reverse.dropWhile isBlank).reverse.map (·.1))]
    | count =>
      let ends (glyph : Char × Bool) : Bool := !glyph.2 && separators.contains glyph.1
      let field := text.takeWhile fun glyph => !ends glyph
      let rest := (text.dropWhile fun glyph => !ends glyph)
      let rest :=
        match rest.dropWhile isBlank with
        | glyph :: behind => if ends glyph then behind else glyph :: behind
        | [] => []
      String.ofList (field.map (·.1)) :: inputFields separators count rest

end BuildWatch.Shell
