import BuildWatch.Text.Utf8

/-! Lines in a stream of bytes. A line is read when its line feed has arrived, or when the stream ends
behind it, and it has to be UTF-8. -/

namespace BuildWatch

/-- The bytes of a line that is still open. -/
structure LineStream where
  held : List UInt8 := []
  deriving DecidableEq, Inhabited

namespace LineStream

def lineFeed : UInt8 := 10

def carriageReturn : UInt8 := 13

/-- The bytes of a finished line without its end. -/
def dropReturn (line : List UInt8) : List UInt8 :=
  match line.reverse with
  | last :: front => if last == carriageReturn then front.reverse else line
  | [] => []

/-- Finished lines, and what is behind the last line feed. -/
def cut (held : List UInt8) : List UInt8 → List (List UInt8) × List UInt8
  | [] => ([], held.reverse)
  | b :: rest =>
    if b == lineFeed then
      let (lines, tail) := cut [] rest
      (dropReturn held.reverse :: lines, tail)
    else cut (b :: held) rest

/-- The lines that a piece of the stream finishes. -/
def feed (stream : LineStream) (bytes : List UInt8) : LineStream × List (List UInt8) :=
  let (lines, held) := cut stream.held.reverse bytes
  (⟨held⟩, lines)

/-- The last line, where the stream ends without a line feed. -/
def finish (stream : LineStream) : Option (List UInt8) :=
  if stream.held.isEmpty then none else some stream.held

end LineStream

/-- What a reader of lines meets next. -/
inductive InputEvent where
  | line (text : String)
  | unreadable (reason : String)
  | finished
  deriving DecidableEq, Inhabited

/-- A finished line as its reader meets it. -/
def InputEvent.ofBytes (bytes : List UInt8) : InputEvent :=
  match Utf8.decode bytes with
  | .ok text => line text
  | .error fault => unreadable fault.message

end BuildWatch
