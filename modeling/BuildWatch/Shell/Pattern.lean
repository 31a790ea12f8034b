import BuildWatch.Text.Ascii

/-! Patterns of a shell: stars, question marks and sets of characters. Quoted characters stand for
themselves. -/

namespace BuildWatch.Shell

/-- A part of a set of characters. -/
inductive SetItem where
  | range (first last : Char)
  | named (name : String)
  deriving Inhabited

def SetItem.holds (c : Char) : SetItem → Bool
  | range first last => first ≤ c && c ≤ last
  | named name => (Ascii.inClass? name c).getD false

inductive PatternItem where
  | literal (c : Char)
  | anyOne
  | anyMany
  | oneOf (negated : Bool) (items : List SetItem)
  deriving Inhabited

namespace PatternItem

/-- A character of a set, and the text behind it; a backslash protects the one behind it. -/
def member : List (Char × Bool) → Option (Char × List (Char × Bool))
  | ('\\', false) :: (c, _) :: rest => some (c, rest)
  | (c, _) :: rest => some (c, rest)
  | [] => none

/-- The items of a set up to its bracket; `none` where it is not closed. -/
def readSet (fuel : Nat) (first : Bool) (items : List SetItem) (text : List (Char × Bool)) :
    Option (List SetItem × List (Char × Bool)) :=
  match fuel, text with
  | 0, _ => none
  | _, [] => none
  | fuel + 1, (c, quoted) :: rest =>
    if c = ']' && !quoted && !first then some (items, rest)
    else
      match if c = '[' && !quoted then named? rest else none with
      | some (name, rest) => readSet fuel false (.named name :: items) rest
      | none =>
        match member text with
        | none => none
        | some (c, rest) =>
          match rest with
          | ('-', false) :: behind =>
            match behind with
            | (']', false) :: _ => readSet fuel false (.range c c :: items) rest
            | behind =>
              match member behind with
              | some (last, rest) => readSet fuel false (.range c last :: items) rest
              | none => none
          | rest => readSet fuel false (.range c c :: items) rest
where
  named? (text : List (Char × Bool)) : Option (String × List (Char × Bool)) :=
    match text with
    | (':', _) :: text =>
      (Ascii.className? (text.map (·.1))).map fun (name, rest) => (name, text.drop (text.length - rest.length))
    | _ => none

def ofChars (fuel : Nat) (text : List (Char × Bool)) : List PatternItem :=
  match fuel, text with
  | 0, _ => []
  | _, [] => []
  | fuel + 1, (c, quoted) :: rest =>
    if quoted then literal c :: ofChars fuel rest
    else if c = '*' then anyMany :: ofChars fuel rest
    else if c = '?' then anyOne :: ofChars fuel rest
    else if c = '\\' then
      match rest with
      | (d, _) :: rest => literal d :: ofChars fuel rest
      | [] => [literal '\\']
    else if c = '[' then
      let (negated, set) :=
        match rest with
        | ('!', false) :: rest => (true, rest)
        | ('^', false) :: rest => (true, rest)
        | rest => (false, rest)
      match readSet (set.length + 1) true [] set with
      | some (items, rest) => oneOf negated items :: ofChars fuel rest
      | none => literal c :: ofChars fuel rest
    else literal c :: ofChars fuel rest

def suffixes : List Char → List (List Char)
  | [] => [[]]
  | c :: rest => (c :: rest) :: suffixes rest

def fits : List PatternItem → List Char → Bool
  | [], text => text.isEmpty
  | anyMany :: rest, text => (suffixes text).any (fits rest)
  | _ :: _, [] => false
  | literal c :: rest, d :: text => c = d && fits rest text
  | anyOne :: rest, _ :: text => fits rest text
  | oneOf negated items :: rest, d :: text => items.any (·.holds d) != negated && fits rest text

end PatternItem

abbrev Pattern : Type := List PatternItem

def Pattern.ofChars (text : List (Char × Bool)) : Pattern := PatternItem.ofChars (text.length + 1) text

def Pattern.fits (pattern : Pattern) (text : List Char) : Bool := PatternItem.fits pattern text

/-- The text without the shortest or longest part at one of its ends that the pattern fits. -/
def Pattern.trim (pattern : Pattern) (atFront longest : Bool) (text : List Char) : List Char :=
  let counts := List.range (text.length + 1)
  let counts := if longest then counts.reverse else counts
  let fitting := counts.find? fun count =>
    pattern.fits (if atFront then text.take count else text.drop (text.length - count))
  match fitting with
  | none => text
  | some count => if atFront then text.drop count else text.take (text.length - count)

end BuildWatch.Shell
