import BuildWatch.Text.Figure

/-! How a conversion of a format lays its text out: flags, a width, and a precision. Texts are bytes. -/

namespace BuildWatch

structure Layout where
  left : Bool := false
  zeros : Bool := false
  plus : Bool := false
  blank : Bool := false
  alternative : Bool := false
  width : Nat := 0
  precision : Option Nat := none
  deriving DecidableEq, Inhabited

namespace Layout

def pad (layout : Layout) (text : List Char) : List Char :=
  let filling := List.replicate (layout.width - text.length) ' '
  if layout.left then text ++ filling else filling ++ text

/-- The sign in front of a number that may have one. -/
def sign (layout : Layout) (negative : Bool) : List Char :=
  if negative then ['-'] else if layout.plus then ['+'] else if layout.blank then [' '] else []

/-- A number behind its sign, with zeros between them where they are to fill the width. -/
def fill (layout : Layout) (zeros : Bool) (sign digits : List Char) : List Char :=
  let room := layout.width - sign.length - digits.length
  layout.pad (sign ++ (if zeros && !layout.left then List.replicate room '0' else []) ++ digits)

/-- A whole number. With a precision that has so many digits at least, and zeros do not fill the width. -/
def whole (layout : Layout) (front digits : List Char) : List Char :=
  let digits := if layout.precision = some 0 && digits == ['0'] then [] else digits
  let least := layout.precision.getD 0
  layout.fill (layout.zeros && layout.precision.isNone) front (List.replicate (least - digits.length) '0' ++ digits)

def signed (layout : Layout) (value : Int) : List Char :=
  layout.whole (layout.sign (value < 0)) (Nat.toDigits 10 value.natAbs)

/-- A whole number in the base that a letter asks for. -/
def unsigned (layout : Layout) (letter : Char) (value : Nat) : List Char :=
  match letter with
  | 'o' =>
    let digits := Nat.toDigits 8 value
    layout.whole [] (if layout.alternative && value != 0 then '0' :: digits else digits)
  | 'x' => layout.whole (if layout.alternative && value != 0 then ['0', 'x'] else []) (Nat.toDigits 16 value)
  | 'X' => layout.whole (if layout.alternative && value != 0 then ['0', 'X'] else []) ((Nat.toDigits 16 value).map Char.toUpper)
  | _ => layout.whole [] (Nat.toDigits 10 value)

/-- A number in the form that a letter asks for. -/
def figure (layout : Layout) (letter : Char) (figure : Figure) : List Char :=
  let text := Figure.magnitudeText letter.toLower layout.precision layout.alternative figure.magnitude
  let text := if letter.isUpper then text.map Char.toUpper else text
  let isNumber := figure.magnitude matches .fraction ..
  let front := layout.sign figure.negative
  match text with
  | '0' :: x :: digits =>
    if x.toLower = 'x' then layout.fill layout.zeros (front ++ ['0', x]) digits
    else layout.fill layout.zeros front text
  | text => layout.fill (layout.zeros && isNumber) front text

/-- A text, of which a precision takes the beginning. -/
def text (layout : Layout) (text : List Char) : List Char :=
  layout.pad (match layout.precision with
    | some count => text.take count
    | none => text)

/-- The flags in front of a width. -/
def readFlags (layout : Layout) : List Char → Layout × List Char
  | '-' :: rest => readFlags { layout with left := true } rest
  | '0' :: rest => readFlags { layout with zeros := true } rest
  | '+' :: rest => readFlags { layout with plus := true } rest
  | ' ' :: rest => readFlags { layout with blank := true } rest
  | '#' :: rest => readFlags { layout with alternative := true } rest
  | rest => (layout, rest)

/-- A width that was given as an argument; a negative one goes to the left. -/
def withWidth (layout : Layout) (width : Int) : Layout :=
  if width < 0 then { layout with left := true, width := width.natAbs } else { layout with width := width.natAbs }

end Layout

end BuildWatch
