import BuildWatch.Text.Stream
import Mathlib.Data.List.Basic

/-! The lines of a stream do not depend on the pieces it arrives in. Lines that are written one after the other, each
with a line feed behind it, are the lines that are read. -/

namespace BuildWatch.LineStream

/-- The lines that the pieces of a stream finish, one piece after the other. -/
def feedAll (stream : LineStream) : List (List UInt8) → LineStream × List (List UInt8)
  | [] => (stream, [])
  | piece :: later =>
    let (stream, lines) := stream.feed piece
    let (stream, further) := stream.feedAll later
    (stream, lines ++ further)

theorem cut_append (held front behind : List UInt8) :
    cut held (front ++ behind) =
      ((cut held front).1 ++ (cut (cut held front).2.reverse behind).1, (cut (cut held front).2.reverse behind).2) := by
  induction front generalizing held with
  | nil => simp only [List.nil_append, cut, List.reverse_reverse]
  | cons b front ih =>
    simp only [List.cons_append, cut]
    split
    next => simp only [ih, List.cons_append]
    next => exact ih (b :: held)

theorem feed_append (stream : LineStream) (front behind : List UInt8) :
    stream.feed (front ++ behind) =
      (((stream.feed front).1.feed behind).1, (stream.feed front).2 ++ ((stream.feed front).1.feed behind).2) := by
  simp only [feed, cut_append]

theorem feed_nil (stream : LineStream) : stream.feed [] = (stream, []) := by
  simp only [feed, cut, List.reverse_reverse]

/-- Where a stream is cut into pieces makes no difference. -/
theorem feedAll_flatten (stream : LineStream) (pieces : List (List UInt8)) :
    stream.feedAll pieces = stream.feed pieces.flatten := by
  induction pieces generalizing stream with
  | nil => exact (feed_nil stream).symm
  | cons piece later ih => simp only [feedAll, ih, List.flatten_cons, feed_append]

/-- Neither of the bytes that end a line is in it. -/
def Single (line : List UInt8) : Prop := lineFeed ∉ line ∧ carriageReturn ∉ line

theorem dropReturn_single {line : List UInt8} (single : Single line) : dropReturn line = line := by
  unfold dropReturn
  split
  next last front shape =>
    have member : last ∈ line := List.mem_reverse.mp (shape ▸ List.mem_cons_self)
    have visible : ¬ (last == carriageReturn) = true := fun same => single.2 (eq_of_beq same ▸ member)
    rw [if_neg visible]
  next shape => exact (List.reverse_eq_nil_iff.mp shape).symm

theorem cut_line (held : List UInt8) {line : List UInt8} (single : lineFeed ∉ line) :
    cut held (line ++ [lineFeed]) = ([dropReturn (held.reverse ++ line)], []) := by
  induction line generalizing held with
  | nil => simp [cut]
  | cons b line ih =>
    have other : ¬ (b == lineFeed) = true := fun same => List.ne_of_not_mem_cons single (eq_of_beq same).symm
    rw [List.cons_append, cut, if_neg other, ih (b :: held) (List.not_mem_of_not_mem_cons single),
      List.reverse_cons, List.append_assoc, List.singleton_append]

theorem feed_line {line : List UInt8} (single : Single line) :
    ({} : LineStream).feed (line ++ [lineFeed]) = ({}, [line]) := by
  simp only [feed, List.reverse_nil, cut_line [] single.1, List.nil_append, dropReturn_single single]

/-- Every written line is read, and nothing stays open behind the last one. -/
theorem feed_lines {lines : List (List UInt8)} (single : ∀ line ∈ lines, Single line) :
    ({} : LineStream).feed (lines.flatMap (· ++ [lineFeed])) = ({}, lines) := by
  induction lines with
  | nil => exact feed_nil _
  | cons line lines ih =>
    obtain ⟨first, others⟩ := List.forall_mem_cons.mp single
    rw [List.flatMap_cons, feed_append, feed_line first, ih others, List.singleton_append]

end BuildWatch.LineStream
