import BuildWatch.Shell.Expansion

/-! Redirections: their targets are found first, and then opened one after the other, up to one that cannot be. -/

namespace BuildWatch.Shell

open Machine

/-- A redirection whose target is known. A text is not: it is put together when it is opened. -/
structure Opening where
  descriptor : Nat
  kind : Redirect
  target : String := ""
  body : Word := []

namespace Opening

def isDescriptor (text : String) : Bool := text = "-" || (text.length = 1 && text.all Char.isDigit)

def targets (substitute : Substitution) (fuel : Nat) :
    List Redirection → State → (List Opening → State → Program) → Program
  | [], state, next => next [] state
  | .mk descriptor kind word :: rest, state, next =>
    let more (opening : Opening) (state : State) : Program :=
      targets substitute fuel rest state fun later state => next (opening :: later) state
    if kind = .hereText then more { descriptor, kind, body := word } state
    else
      Expansion.text substitute fuel (Expansion.atHome state word) state fun target state =>
        if state.jump.isSome then next [] state
        else if kind = .duplicate && !isDescriptor target then
          Builtin.refuse "Syntax error: Bad fd number" state (next [])
        else more { descriptor, kind, target } state

def reason (writes : Bool) (fault : FileError) : String :=
  if fault = .notFound || fault = .notDirectory then (if writes then "Directory nonexistent" else "No such file")
  else fault.reason

/-- Opens one target. What is said about a fault counts as the fault. -/
def openOne (substitute : Substitution) (fuel : Nat) (opening : Opening) (state : State)
    (next : Option String → State → Program) : Program :=
  let fault (writes : Bool) (fault : FileError) : Option String :=
    some ((if writes then "cannot create " else "cannot open ") ++ s!"{opening.target}: {reason writes fault}")
  let openAs (mode : OpenMode) : Program :=
    .call (.openFile opening.descriptor ⟨opening.target⟩ mode) fun
      | .failed error => next (fault (mode != .read) error) state
      | _ => next none state
  match opening.kind with
  | .input => openAs .read
  | .clobber => openAs .write
  | .append => openAs .append
  | .inputOutput =>
    if opening.descriptor = 0 then
      .call (.touch ⟨opening.target⟩) fun
        | .failed error => next (fault true error) state
        | _ => openAs .read
    else openAs .append
  | .output =>
    if state.isOn 'C' then
      .call (.inspect ⟨opening.target⟩) fun
        | .kind (.file _ _) => next (fault true .alreadyThere) state
        | _ => openAs .write
    else openAs .write
  | .hereText =>
    Expansion.text substitute fuel opening.body state fun text state =>
      if state.jump.isSome then next (some "") { state with jump := none }
      else Program.perform (.openText opening.descriptor (ByteText.toBytes text)) fun _ => next none state
  | .duplicate =>
    match State.numeral? opening.target with
    | none => Program.perform (.close opening.descriptor) fun _ => next none state
    | some source =>
      if source = opening.descriptor then next none state
      else
        .call (.duplicate source opening.descriptor) fun
          | .failed error => next (some s!"{source}: {error.reason}") state
          | _ => next none state

/-- Opens targets, and says whether all of them could be. -/
def openAll (substitute : Substitution) (fuel : Nat) : List Opening → State → (Bool → State → Program) → Program
  | [], state, next => next true state
  | opening :: rest, state, next =>
    openOne substitute fuel opening state fun fault state =>
      match fault with
      | none => openAll substitute fuel rest state next
      | some text =>
        if text.isEmpty then next false (state.settle 2)
        else Builtin.complain 2 text state (next false)

end Opening

end BuildWatch.Shell
