import BuildWatch.Proofs.BoardGroups
import BuildWatch.Proofs.WatchMoves

/-! The board of a watch that alone writes to it. Outcomes replace one another as wholes, and between them
the board is empty or shows the last one. -/

namespace BuildWatch.Watch

def boardOf (effects : List Effect) : Board := effects.foldl Board.apply {}

/-- Every change of the target clears the board, and so do a stop and an invalidation of an active watch. -/
def Turn.clears (turn : Turn) (watch : Watch) : Bool :=
  match turn.operation with
  | .configure _ => true
  | .stop | .invalidate => watch.isActive
  | _ => false

/-- The outcome that a turn brings from the present worker, with its run. -/
def Turn.accepts (turn : Turn) (watch : Watch) : Option (Run × Outcome) :=
  match turn.operation, watch.run with
  | .receive generation (.reported (.finished outcome)), some run =>
    if run.generation = generation then some (run, outcome) else none
  | _, _ => none

/-- The last accepted outcome that has not been cleared since. -/
def latest (watch : Watch) (shown : Option (Run × Outcome)) : List Turn → Option (Run × Outcome)
  | [] => shown
  | turn :: later =>
    latest (turn.perform watch).1 (if turn.clears watch then none else (turn.accepts watch).or shown) later

def problems (outcome : Outcome) : Severity → List String
  | .error => outcome.errors
  | .warning => outcome.warnings

theorem mem_diagnostics_iff {outcome : Outcome} {root : Path} {diagnostic : Diagnostic} :
    diagnostic ∈ diagnostics outcome root ↔
      ∃ severity, ∃ problem ∈ problems outcome severity, Dialect.diagnose severity problem root = some diagnostic := by
  rw [diagnostics, List.mem_append, List.mem_filterMap, List.mem_filterMap]
  constructor
  · rintro (error | warning)
    · exact ⟨.error, error⟩
    · exact ⟨.warning, warning⟩
  · rintro ⟨severity, found⟩
    cases severity with
    | error => exact .inl found
    | warning => exact .inr found

/-! ### What the operations do to a board -/

/-- Effects that neither publish anything nor tell how a build went. -/
def isQuiet : Effect → Bool
  | .publish .. | .statusChanged .success | .statusChanged .failure => false
  | _ => true

def isClear : Effect → Bool
  | .clearDiagnostics => true
  | _ => false

structure Quiet (effects : List Effect) (clears : Bool) : Prop where
  quiet : effects.all isQuiet = true
  clear : effects.any isClear = clears

namespace Quiet
variable {effects later : List Effect} {clears more : Bool}

theorem append (first : Quiet effects clears) (second : Quiet later more) :
    Quiet (effects ++ later) (clears || more) where
  quiet := by rw [List.all_append, first.quiet, second.quiet]; rfl
  clear := by rw [List.any_append, first.clear, second.clear]

theorem board (quiet : Quiet effects clears) (board : Board) :
    effects.foldl Board.apply board = if clears then {} else board := by
  induction effects generalizing board clears with
  | nil => rw [← quiet.clear]; rfl
  | cons effect rest ih =>
    obtain ⟨quiet, rfl⟩ := quiet
    obtain ⟨first, others⟩ := (Bool.and_eq_true _ _).mp quiet
    rw [List.foldl_cons, ih ⟨others, rfl⟩]
    cases effect with
    | clearDiagnostics => simp [isClear, Board.apply, Board.clear]
    | publish => cases first
    | _ => rfl

end Quiet

private theorem start_quiet (surroundings : Surroundings) (watch : Watch) : Quiet (watch.start surroundings).2 false := by
  unfold start
  split
  · exact ⟨rfl, rfl⟩
  · split
    next reason refusal => cases reason <;> exact ⟨rfl, rfl⟩
    next directory file ready =>
      split
      · exact ⟨rfl, rfl⟩
      · dsimp only
        cases surroundings.sendFailure (.start directory file) <;> exact ⟨rfl, rfl⟩

private theorem stop_quiet (surroundings : Surroundings) (watch : Watch) :
    Quiet (watch.stop surroundings).2 watch.isActive := by
  unfold stop isActive
  cases watch.run with
  | none => exact ⟨rfl, rfl⟩
  | some run => dsimp only; cases surroundings.sendFailure .stop <;> exact ⟨rfl, rfl⟩

private theorem invalidate_quiet (surroundings : Surroundings) (watch : Watch) :
    Quiet (watch.invalidate surroundings).2 watch.isActive := by
  unfold invalidate isActive
  cases watch.run with
  | none => exact ⟨rfl, rfl⟩
  | some run => dsimp only; cases surroundings.sendFailure .invalidate <;> exact ⟨rfl, rfl⟩

private theorem configure_quiet (surroundings : Surroundings) (change : TargetChange) (watch : Watch) :
    Quiet (watch.configure surroundings change).2 true := by
  have first : Quiet (watch.retarget change).2.1 true := by
    simp only [retarget]
    split <;> exact ⟨rfl, rfl⟩
  cases decided : (watch.retarget change).2.2 with
  | false => simpa only [configure_staying surroundings decided] using first
  | true =>
    rw [configure_restarting surroundings decided]
    exact (first.append (stop_quiet surroundings _)).append (start_quiet surroundings _)

private theorem loss_quiet (event : WorkerEvent) (run : Run) (watch : Watch) :
    Quiet (lossEffects event ++ (watch.abandon run).2) false := by
  cases event with
  | exited code =>
    simp only [lossEffects, crashEffects]
    split <;> exact ⟨rfl, rfl⟩
  | _ => exact ⟨rfl, rfl⟩

private theorem onEvent_quiet (run : Run) {event : WorkerEvent} (parting : isParting event = true) (watch : Watch) :
    Quiet (watch.onEvent run event).2 false := by
  rw [onEvent_parting run parting]
  exact loss_quiet event run watch

private theorem problems_quiet (severity : Severity) (root : Path) (problems : List String) :
    Quiet (problems.flatMap (problemEffects severity root)) false := by
  induction problems with
  | nil => exact ⟨rfl, rfl⟩
  | cons problem rest ih =>
    have first : Quiet (problemEffects severity root problem) false := by
      unfold problemEffects
      split <;> exact ⟨rfl, rfl⟩
    exact first.append ih

/-- An accepted outcome takes the whole board. -/
private theorem outcome_board (outcome : Outcome) (root : Path) (board : Board) :
    (outcomeEffects outcome root).foldl Board.apply board = ⟨Board.group (diagnostics outcome root)⟩ := by
  have published := Board.group_publishes (diagnostics outcome root)
  unfold outcomeEffects
  rw [List.foldl_append, List.foldl_append, List.foldl_append, (problems_quiet .error root _).board,
    (problems_quiet .warning root _).board, List.foldl_map]
  exact Board.set_all published.ordered fun _ member => published.nonempty member

/-- After a turn the board is empty, shows the outcome that the turn has brought, or is what it was. -/
theorem Turn.perform_board (turn : Turn) (watch : Watch) (board : Board) :
    (turn.perform watch).2.foldl Board.apply board =
      if turn.clears watch then {}
      else match turn.accepts watch with
        | some (run, outcome) => ⟨Board.group (diagnostics outcome run.workingDirectory)⟩
        | none => board := by
  obtain ⟨surroundings, operation⟩ := turn
  cases operation with
  | configure change => exact (configure_quiet surroundings change watch).board board
  | start => exact (start_quiet surroundings watch).board board
  | stop => exact (stop_quiet surroundings watch).board board
  | invalidate => exact (invalidate_quiet surroundings watch).board board
  | receive generation event =>
    show (watch.receive generation event).2.foldl Board.apply board = _
    by_cases heard : watch.hears generation
    · obtain ⟨run, active, rfl⟩ := heard
      rw [receive_current active]
      cases event with
      | reported report =>
        cases report with
        | finished outcome =>
          simp [Turn.clears, Turn.accepts, active, onEvent, onReport, withStatus, outcome_board, Board.apply]
        | _ => simp [Turn.clears, Turn.accepts, active, onEvent, onReport, withStatus, Board.apply]
      | _ =>
        rw [(onEvent_quiet run (by rfl) watch).board]
        simp [Turn.clears, Turn.accepts]
    · have stale : Turn.accepts ⟨surroundings, .receive generation event⟩ watch = none := by
        unfold Turn.accepts
        split
        next current active =>
          cases ‹Operation.receive generation event = _›
          exact if_neg fun same => heard ⟨_, active, same⟩
        next => rfl
      rw [receive_stale heard, stale]
      rfl

/-! ### When observers hear of a result -/

def isVerdict : Effect → Bool
  | .statusChanged .success | .statusChanged .failure => true
  | _ => false

theorem Quiet.silent {effects : List Effect} {clears : Bool} (quiet : Quiet effects clears) :
    effects.any isVerdict = false := by
  apply List.any_eq_false.mpr
  intro effect member verdict
  have plain := List.all_eq_true.mp quiet.quiet effect member
  cases effect with
  | statusChanged status =>
    cases status with
    | success | failure => cases plain
    | _ => cases verdict
  | _ => cases verdict

/-- Nothing comes behind the verdict on a build. -/
def VerdictLast (effects : List Effect) : Prop :=
  ∀ before verdict after, effects = before ++ verdict :: after → isVerdict verdict = true → after = []

private theorem VerdictLast.of_silent {effects : List Effect} (silent : effects.any isVerdict = false) :
    VerdictLast effects := by
  rintro before verdict after rfl found
  simp [found] at silent

private theorem VerdictLast.snoc {effects : List Effect} (silent : effects.any isVerdict = false) (last : Effect) :
    VerdictLast (effects ++ [last]) := by
  intro before verdict after shape found
  rcases List.eq_nil_or_concat after with empty | ⟨rest, final, rfl⟩
  · exact empty
  · have front : effects = before ++ verdict :: rest := by
      have split : effects ++ [last] = (before ++ verdict :: rest) ++ [final] := by simpa using shape
      exact (List.append_inj' split rfl).1
    simp [front, found] at silent

private theorem outcome_silent (outcome : Outcome) (root : Path) :
    (outcomeEffects outcome root).any isVerdict = false := by
  have published {publish : FileDiagnostics → Effect} (silent : ∀ entry, isVerdict (publish entry) = false)
      (files : List FileDiagnostics) : (files.map publish).any isVerdict = false := by
    induction files with
    | nil => rfl
    | cons entry files ih => rw [List.map_cons, List.any_cons, silent, ih, Bool.or_self]
  unfold outcomeEffects
  rw [List.any_append, List.any_append, List.any_append, (problems_quiet .error root _).silent,
    (problems_quiet .warning root _).silent, published fun _ => rfl]
  rfl

theorem Turn.verdict_last (turn : Turn) (watch : Watch) : VerdictLast (turn.perform watch).2 := by
  obtain ⟨surroundings, operation⟩ := turn
  cases operation with
  | configure change => exact .of_silent (configure_quiet surroundings change watch).silent
  | start => exact .of_silent (start_quiet surroundings watch).silent
  | stop => exact .of_silent (stop_quiet surroundings watch).silent
  | invalidate => exact .of_silent (invalidate_quiet surroundings watch).silent
  | receive generation event =>
    show VerdictLast (watch.receive generation event).2
    by_cases heard : watch.hears generation
    · obtain ⟨run, active, rfl⟩ := heard
      rw [receive_current active]
      cases event with
      | reported report =>
        cases report with
        | finished outcome => exact .snoc (outcome_silent outcome run.workingDirectory) _
        | failure error =>
          have silent : [Effect.alert "webpack Error", .log error.pretty].any isVerdict = false := rfl
          exact .snoc silent _
        | _ => exact .of_silent rfl
      | _ => exact .of_silent (onEvent_quiet run (by rfl) watch).silent
    · rw [receive_stale heard]
      exact .of_silent rfl

/-- An accepted outcome is told as a success just if it has neither errors nor warnings. -/
theorem Turn.accepts_verdict {turn : Turn} {watch : Watch} {run : Run} {outcome : Outcome}
    (accepted : turn.accepts watch = some (run, outcome)) :
    watch.run = some run ∧ ∃ before, (turn.perform watch).2 =
      before ++ [.statusChanged (if outcome.isClean then .success else .failure)] := by
  obtain ⟨surroundings, operation⟩ := turn
  unfold Turn.accepts at accepted
  split at accepted
  next generation reported current shape active =>
    split at accepted
    next same =>
      cases accepted
      cases shape
      subst same
      refine ⟨active, outcomeEffects outcome run.workingDirectory, ?_⟩
      show (watch.receive run.generation _).2 = _
      rw [receive_current active]
      rfl
    next => cases accepted
  next => cases accepted

/-! ### Runs -/

/-- The board is empty, or shows exactly what the dialects make of an outcome, errors before warnings, under
the directory its worker was launched in. -/
def Shows (effects : List Effect) : Option (Run × Outcome) → Prop
  | none => boardOf effects = {}
  | some (run, outcome) =>
    Effect.launch run.worker run.generation run.workingDirectory ∈ effects ∧
      Board.Publishes (diagnostics outcome run.workingDirectory) (boardOf effects).files

private theorem Shows.perform {past : List Effect} {watch : Watch} {shown : Option (Run × Outcome)}
    (shows : Shows past shown) (launched : Launched past watch) (turn : Turn) :
    Shows (past ++ (turn.perform watch).2) (if turn.clears watch then none else (turn.accepts watch).or shown) := by
  have board : boardOf (past ++ (turn.perform watch).2) = _ :=
    List.foldl_append.trans (turn.perform_board watch (boardOf past))
  cases cleared : turn.clears watch with
  | true => simpa [Shows, cleared] using board
  | false =>
    rw [cleared] at board
    cases accepted : turn.accepts watch with
    | some pair =>
      obtain ⟨run, outcome⟩ := pair
      rw [accepted] at board
      refine ⟨List.mem_append_left _ (launched run (Turn.accepts_verdict accepted).1), ?_⟩
      rw [board]
      exact Board.group_publishes _
    | none =>
      rw [accepted] at board
      cases shown with
      | none => exact board.trans shows
      | some pair =>
        refine ⟨List.mem_append_left _ shows.1, ?_⟩
        rw [board]
        exact shows.2

private theorem shows_continued (past : List Effect) (watch : Watch) (shown : Option (Run × Outcome))
    (shows : Shows past shown) (launched : Launched past watch) (turns : List Turn) :
    Shows (past ++ (play watch turns).2) (latest watch shown turns) := by
  induction turns generalizing past watch shown with
  | nil => simpa [play, latest] using shows
  | cons turn later ih =>
    have next := ih _ _ _ (shows.perform launched turn) (launched_kept.perform 0 launched turn)
    simpa [play, latest] using next

/-- After every turn of every run the board is empty, if nothing has been accepted since it was cleared, and
otherwise shows the last accepted outcome as a whole: all its diagnostics, each once, by file and in their
order. When observers hear how a build went, the board is already what it is after the turn. -/
theorem board_shows_latest_outcome (turns : List Turn) :
    (match latest {} none turns with
      | none => boardOf (play {} turns).2 = {}
      | some (run, outcome) =>
        let published :=
          outcome.errors.filterMap (fun problem => Dialect.diagnose .error problem run.workingDirectory) ++
            outcome.warnings.filterMap fun problem => Dialect.diagnose .warning problem run.workingDirectory
        Effect.launch run.worker run.generation run.workingDirectory ∈ (play {} turns).2 ∧
        Board.Publishes published (boardOf (play {} turns).2).files ∧
        (boardOf (play {} turns).2).size = published.length ∧
        ∀ file, ((boardOf (play {} turns).2).items? file).getD [] =
          published.filter fun item => item.file.equivalent file) ∧
    ∀ earlier turn, turns = earlier ++ [turn] →
      (∀ before status after, (turn.perform (play {} earlier).1).2 = before ++ .statusChanged status :: after →
        status = .success ∨ status = .failure →
        boardOf ((play {} earlier).2 ++ before) = boardOf (play {} turns).2) ∧
      ∀ run outcome, turn.accepts (play {} earlier).1 = some (run, outcome) →
        ∃ before, (turn.perform (play {} earlier).1).2 =
          before ++ [.statusChanged (if outcome.isClean then .success else .failure)] := by
  refine ⟨?_, ?_⟩
  · have shows : Shows (play {} turns).2 (latest {} none turns) := by
      have begun : Shows [] none := rfl
      exact shows_continued [] {} none begun (launched_kept.initial) turns
    split
    next empty => simpa [Shows, empty] using shows
    next run outcome found =>
      rw [found] at shows
      exact ⟨shows.1, shows.2, shows.2.size, shows.2.lookup⟩
  · rintro earlier turn rfl
    refine ⟨?_, fun run outcome accepted => (Turn.accepts_verdict accepted).2⟩
    intro before status after shape verdict
    have last : after = [] := by
      apply turn.verdict_last _ _ _ _ shape
      rcases verdict with rfl | rfl <;> rfl
    have effects : (play {} (earlier ++ [turn])).2 = (play {} earlier).2 ++ before ++ [.statusChanged status] := by
      rw [play_append]
      simp [play, shape, last]
    rw [effects]
    simp only [boardOf, List.foldl_append, List.foldl_cons, List.foldl_nil]
    rfl

/-- A build with problems in one file under two spellings, and with one that no dialect reads, since it begins with a space. -/
def mixedOutcome : Turn := ⟨calm, .receive 0 (.reported (.finished ⟨["b.js 2:3\nno", " lost"], ["./b.js 5:8\nodd"]⟩))⟩

theorem unread_problem_is_dropped :
    let started : List Turn := [⟨calm, .configure ⟨.set ⟨"/p"⟩, .set ⟨"w.js"⟩⟩⟩, ⟨calm, .start⟩]
    let effects := (play {} (started ++ [mixedOutcome])).2
    let first : Diagnostic := ⟨⟨"/p/b.js"⟩, .point 1 2, "no", .error⟩
    let second : Diagnostic := ⟨⟨"/p/b.js"⟩, .point 4 7, "odd", .warning⟩
    Dialect.diagnose .error " lost" ⟨"/p"⟩ = none ∧
    (boardOf effects).size = 2 ∧ ((boardOf effects).items? ⟨"/p//b.js"⟩).getD [] = [first, second] ∧
    ∃ before, effects = before ++ [.statusChanged .failure] ∧ boardOf before = boardOf effects := by
  intro started effects first second
  obtain ⟨shown, told⟩ := board_shows_latest_outcome (started ++ [mixedOutcome])
  have last : latest {} none (started ++ [mixedOutcome]) =
      some (⟨0, 0, ⟨"/p"⟩⟩, ⟨["b.js 2:3\nno", " lost"], ["./b.js 5:8\nodd"]⟩) := by decide
  rw [last] at shown
  obtain ⟨_, _, size, lookup⟩ := shown
  have accepted : mixedOutcome.accepts (play {} started).1 =
      some (⟨0, 0, ⟨"/p"⟩⟩, ⟨["b.js 2:3\nno", " lost"], ["./b.js 5:8\nodd"]⟩) := by decide
  obtain ⟨same, verdict⟩ := told started mixedOutcome rfl
  obtain ⟨before, performed⟩ := verdict _ _ accepted
  have heard : effects = (play {} started).2 ++ before ++ [.statusChanged .failure] :=
    calc effects
      _ = (play {} started).2 ++ ((mixedOutcome.perform (play {} started).1).2 ++ []) :=
        congrArg Prod.snd (play_append {} started [mixedOutcome])
      _ = (play {} started).2 ++ before ++ [.statusChanged .failure] := by
        rw [performed, List.append_nil, List.append_assoc]
        rfl
  exact ⟨by decide +kernel, size.trans (by decide +kernel), (lookup _).trans (by decide +kernel), _, heard,
    same before _ [] performed (.inr rfl)⟩

end BuildWatch.Watch
