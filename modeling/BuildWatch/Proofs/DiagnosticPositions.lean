import BuildWatch.Console
import BuildWatch.Proofs.DialectLocations
import BuildWatch.Proofs.WatchDiagnostics
import BuildWatch.Proofs.WatchFreshness

/-! How wide diagnostics are. Printed numbers stop short of the last position when they are counted from zero, so the one column
of a diagnostic is never cut off, and counting from one again gives what a reader of the output expects. Since a watch
publishes nothing but diagnostics of problems, this holds for whatever stands on its board. -/

namespace BuildWatch

/-- One column wide, with a line and a column left behind the start. -/
structure Span.OneColumn (span : Span) : Prop where
  line : span.stop.line = span.start.line
  character : span.stop.character.toNat = span.start.character.toNat + 1
  lines : span.start.line.toNat ≤ UInt32.size - 2
  characters : span.start.character.toNat ≤ UInt32.size - 2

theorem toNat_succ {position : UInt32} (short : position.toNat ≤ UInt32.size - 2) : (position + 1).toNat = position.toNat + 1 := by
  have one : (1 : UInt32).toNat = 1 := rfl
  unfold UInt32.size at short
  rw [UInt32.toNat_add, one]
  omega

theorem Span.point_oneColumn {line character : UInt32} (lines : line.toNat ≤ UInt32.size - 2)
    (characters : character.toNat ≤ UInt32.size - 2) : (Span.point line character).OneColumn := by
  have left : character ≠ lastPosition := by
    rintro rfl
    exact absurd characters (by decide)
  refine ⟨rfl, ?_, lines, characters⟩
  simp only [Span.point, if_neg left]
  exact toNat_succ characters

namespace Dialect

theorem fromZero_le (position : UInt32) : (fromZero position).toNat ≤ UInt32.size - 2 := by
  have bound := position.toNat_lt
  rw [fromZero_toNat, UInt32.size]
  omega

theorem diagnose_oneColumn {severity : Severity} {problem : String} {root : Path} {diagnostic : Diagnostic}
    (found : diagnose severity problem root = some diagnostic) : diagnostic.span.OneColumn := by
  obtain ⟨location, -, rfl⟩ := Option.map_eq_some_iff.mp found
  exact Span.point_oneColumn (fromZero_le _) (fromZero_le _)

/-- A diagnostic that some problem stands for. -/
def Diagnosed (diagnostic : Diagnostic) : Prop :=
  ∃ severity problem root, diagnose severity problem root = some diagnostic

theorem Diagnosed.oneColumn {diagnostic : Diagnostic} (diagnosed : Diagnosed diagnostic) : diagnostic.span.OneColumn := by
  obtain ⟨severity, problem, root, found⟩ := diagnosed
  exact diagnose_oneColumn found

end Dialect

namespace Board

def Holds (board : Board) (item : Diagnostic) : Prop := ∃ entry ∈ board.files, item ∈ entry.2

theorem mem_insert {file : Path} {items : List Diagnostic} {files : List FileDiagnostics} {entry : FileDiagnostics}
    (member : entry ∈ insert file items files) : entry.2 = items ∨ entry ∈ files := by
  induction files with
  | nil =>
    rw [List.mem_singleton.mp member]
    exact .inl rfl
  | cons held rest ih =>
    simp only [insert] at member
    split at member
    next =>
      rcases List.mem_cons.mp member with rfl | later
      · exact .inl rfl
      · exact .inr (List.mem_cons_of_mem _ later)
    next =>
      split at member
      next =>
        rcases List.mem_cons.mp member with rfl | later
        · exact .inl rfl
        · exact .inr later
      next =>
        rcases List.mem_cons.mp member with rfl | later
        · exact .inr List.mem_cons_self
        · exact (ih later).imp_right (List.mem_cons_of_mem _)

/-- What an effect brings to a board has been published by it. -/
theorem holds_apply {board : Board} {effect : Effect} {item : Diagnostic} (holds : (board.apply effect).Holds item) :
    board.Holds item ∨ ∃ file items, effect = .publish file items ∧ item ∈ items := by
  obtain ⟨entry, listed, inside⟩ := holds
  cases effect with
  | clearDiagnostics => cases listed
  | publish file items =>
    simp only [apply, set] at listed
    split at listed
    next => exact .inl ⟨entry, (List.mem_filter.mp listed).1, inside⟩
    next =>
      rcases mem_insert listed with same | earlier
      · exact .inr ⟨file, items, rfl, same ▸ inside⟩
      · exact .inl ⟨entry, earlier, inside⟩
  | _ => exact .inl ⟨entry, listed, inside⟩

end Board

namespace Watch
open Dialect

theorem published_of_holds {effects : List Effect} {item : Diagnostic} (holds : (boardOf effects).Holds item) :
    ∃ file items, .publish file items ∈ effects ∧ item ∈ items := by
  -- The induction starts from any board, since the effects that are left find another one.
  have continued (board : Board) (after : (effects.foldl Board.apply board).Holds item) :
      board.Holds item ∨ ∃ file items, .publish file items ∈ effects ∧ item ∈ items := by
    clear holds
    induction effects generalizing board with
    | nil => exact .inl after
    | cons effect rest ih =>
      rcases ih _ after with first | ⟨file, items, published, inside⟩
      · rcases Board.holds_apply first with before | ⟨file, items, rfl, inside⟩
        · exact .inl before
        · exact .inr ⟨file, items, List.mem_cons_self, inside⟩
      · exact .inr ⟨file, items, List.mem_cons_of_mem _ published, inside⟩
  rcases continued {} holds with ⟨entry, none, -⟩ | published
  · cases none
  · exact published

theorem diagnosed_of_mem {outcome : Outcome} {root : Path} {item : Diagnostic} (member : item ∈ diagnostics outcome root) :
    Diagnosed item := by
  obtain ⟨severity, problem, -, found⟩ := mem_diagnostics_iff.mp member
  exact ⟨severity, problem, root, found⟩

theorem problemEffects_publish {severity : Severity} {root : Path} {problem : String} {file : Path} {items : List Diagnostic} :
    Effect.publish file items ∉ problemEffects severity root problem := by
  unfold problemEffects
  split <;> simp

theorem outcomeEffects_publish {outcome : Outcome} {root : Path} {file : Path} {items : List Diagnostic}
    (member : .publish file items ∈ outcomeEffects outcome root) : ∀ item ∈ items, Diagnosed item := by
  intro item inside
  simp only [outcomeEffects, List.mem_append, List.mem_flatMap, List.mem_cons, List.mem_map, reduceCtorEq, List.not_mem_nil,
    problemEffects_publish, and_false, exists_false, false_or, Effect.publish.injEq, Prod.exists] at member
  obtain ⟨other, others, listed, rfl, rfl⟩ := member
  have grouped : item ∈ (Board.group (diagnostics outcome root)).flatMap (·.2) :=
    List.mem_flatMap.mpr ⟨_, listed, inside⟩
  exact diagnosed_of_mem ((Board.group_publishes _).complete.mem_iff.mp grouped)

/-- Only an outcome publishes anything. -/
theorem Move.publish_mem {surroundings : Surroundings} {watch after : Watch} {attempted : Nat} {effects : List Effect}
    (move : Move surroundings watch attempted effects after) {file : Path} {items : List Diagnostic}
    (member : .publish file items ∈ effects) : ∀ item ∈ items, Diagnosed item := by
  cases move with
  | retargeted change =>
    simp only [retarget] at member
    split at member <;> simp at member
  | refused reason => cases reason <;> simp [refusal, StartError.isBlocking] at member
  | launchFailed | passedOver => simp [staleNote] at member
  | launched directory other =>
    unfold launchEffects at member
    cases lost : surroundings.sendFailure (.start directory other) <;> simp [lost, delivery, lossNote] at member
  | stopped run active =>
    simp only [stop, active] at member
    cases lost : surroundings.sendFailure .stop <;> simp [lost, delivery, lossNote] at member
  | invalidated run active =>
    simp only [invalidate, active] at member
    cases lost : surroundings.sendFailure .invalidate <;> simp [lost, delivery, lossNote] at member
  | reported run report =>
    cases report with
    | finished outcome =>
      simp only [onReport, withStatus, List.mem_append, List.mem_singleton, reduceCtorEq, or_false] at member
      exact outcomeEffects_publish member
    | _ => simp [onReport, withStatus] at member
  | lost run event =>
    cases event <;> simp [lossEffects, crashEffects, abandon] at member

theorem diagnosed_kept : Kept fun _ past _ => ∀ file items, Effect.publish file items ∈ past → ∀ item ∈ items, Diagnosed item where
  initial := by simp
  move := by
    intro surroundings attempted past watch more effects after earlier move file items member
    rcases List.mem_append.mp member with before | now
    · exact earlier file items before
    · exact move.publish_mem now

/-- Whatever stands on the board at any time of a run is the diagnostic of a problem. -/
theorem diagnosed_of_holds {turns : List Turn} {before after : List Effect} (effects : (play {} turns).2 = before ++ after)
    {item : Diagnostic} (holds : (boardOf before).Holds item) : Diagnosed item := by
  obtain ⟨file, items, published, inside⟩ := published_of_holds holds
  have told : .publish file items ∈ (play {} turns).2 := effects ▸ List.mem_append_left _ published
  exact diagnosed_kept.run turns file items told item inside

end Watch

namespace Console

/-- The line of a diagnostic, counted without an end. -/
def countedLine (file : Path) (diagnostic : Diagnostic) : String :=
  let message := String.ofList (Text.trimEnd diagnostic.message.toList)
  let start := diagnostic.span.start
  s!"{file.text}:{start.line.toNat + 1}:{start.character.toNat + 1}: {diagnostic.severity.label}: {message}"

theorem diagnosticLine_counted (file : Path) {diagnostic : Diagnostic} (one : diagnostic.span.OneColumn) :
    diagnosticLine file diagnostic = countedLine file diagnostic := by
  have line : toString (diagnostic.span.start.line + 1) = toString (diagnostic.span.start.line.toNat + 1) :=
    congrArg toString (toNat_succ one.lines)
  have character : toString (diagnostic.span.start.character + 1) = toString (diagnostic.span.start.character.toNat + 1) :=
    congrArg toString (toNat_succ one.characters)
  simp only [diagnosticLine, countedLine, line, character]

theorem diagnosticLines_counted {board : Board} (one : ∀ entry ∈ board.snapshot, ∀ item ∈ entry.2, item.span.OneColumn) :
    diagnosticLines board = board.snapshot.flatMap fun (file, items) => items.map (countedLine file) := by
  unfold diagnosticLines
  apply List.flatMap_congr
  intro entry listed
  apply List.map_congr_left
  intro item inside
  exact diagnosticLine_counted entry.1 (one entry listed item inside)

end Console

namespace Watch
open Dialect

theorem holds_of_snapshot {board : Board} {entry : FileDiagnostics} (listed : entry ∈ board.snapshot) {item : Diagnostic}
    (inside : item ∈ entry.2) : board.Holds item := by
  rcases List.mem_append.mp listed with first | second
  · exact ⟨entry, (List.mem_filter.mp first).1, inside⟩
  · exact ⟨entry, (List.mem_filter.mp second).1, inside⟩

/-- Every diagnostic of a problem covers one column, which is never cut off, and starts before the last line and column. The
same holds for all that stands on the board of a watch at any time of a run, so none of the positions that are printed
runs over when it is counted from one. -/
theorem diagnostics_cover_one_column :
    (∀ severity problem root diagnostic, diagnose severity problem root = some diagnostic → diagnostic.span.OneColumn) ∧
    ∀ turns before after, (play {} turns).2 = before ++ after →
      (∀ entry ∈ (boardOf before).snapshot, ∀ item ∈ entry.2, item.span.OneColumn ∧
        (item.span.start.line + 1).toNat = item.span.start.line.toNat + 1 ∧
        (item.span.start.character + 1).toNat = item.span.start.character.toNat + 1) ∧
      Console.diagnosticLines (boardOf before) =
        (boardOf before).snapshot.flatMap fun (file, items) => items.map (Console.countedLine file) := by
  refine ⟨fun _ _ _ _ found => diagnose_oneColumn found, ?_⟩
  intro turns before after effects
  have one : ∀ entry ∈ (boardOf before).snapshot, ∀ item ∈ entry.2, item.span.OneColumn := by
    intro entry listed item inside
    exact (diagnosed_of_holds effects (holds_of_snapshot listed inside)).oneColumn
  refine ⟨?_, Console.diagnosticLines_counted one⟩
  intro entry listed item inside
  have column := one entry listed item inside
  exact ⟨column, toNat_succ column.lines, toNat_succ column.characters⟩

/-- A run whose one problem lies farther out than positions go. -/
def oversized : List Turn :=
  [⟨calm, .configure ⟨.set ⟨"/p"⟩, .set ⟨"w.js"⟩⟩⟩, ⟨calm, .start⟩,
    ⟨calm, .receive 0 (.reported (.finished ⟨["a.js 99999999999:0\nboom"], []⟩))⟩]

theorem largest_position_is_printed :
    (∀ entry ∈ (boardOf (play {} oversized).2).snapshot, ∀ item ∈ entry.2, item.span.OneColumn) ∧
    Console.diagnosticLines (boardOf (play {} oversized).2) = ["/p/a.js:4294967295:1: error: boom"] := by
  obtain ⟨one, lines⟩ := diagnostics_cover_one_column.2 oversized _ [] (List.append_nil _).symm
  refine ⟨fun entry listed item inside => (one entry listed item inside).1, lines.trans ?_⟩
  decide +kernel

end Watch

end BuildWatch
