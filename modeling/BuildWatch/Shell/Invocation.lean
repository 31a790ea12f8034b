import BuildWatch.Shell.Evaluator

/-! The shell as a program: where its commands come from, and what it starts with. -/

namespace BuildWatch.Shell

open Machine

/-- The options of a call of the shell, and the arguments behind them. -/
structure Invocation where
  /-- The commands are in an argument. -/
  hasScript : Bool := false
  arguments : List String := []
  state : State
  fault : Option String := none

namespace Invocation

/-- Letters that only a call of the shell can have are left out. -/
def ownLetters (letters : List Char) : List Char := letters.filter fun c => c != 'c' && c != 'l'

def parse (fuel : Nat) (state : State) (arguments : List String) : Invocation :=
  match fuel, arguments with
  | 0, arguments => { arguments, state }
  | _, [] => { state }
  | fuel + 1, argument :: rest =>
    match argument.toList with
    | ['-'] => { arguments := rest, state }
    | ['-', '-'] => { arguments := rest, state }
    | sign :: letters =>
      if sign != '-' && sign != '+' then { arguments := argument :: rest, state }
      else
        let invocation (state : State) (rest : List String) : Invocation :=
          let later := parse fuel state rest
          { later with hasScript := letters.contains 'c' || later.hasScript }
        match Builtin.switchLetters (sign = '-') (ownLetters letters) state, rest with
        | (state, _, some fault), _ => { state, fault := some fault }
        | (state, false, none), rest => invocation state rest
        | (state, true, none), [] => invocation state []
        | (state, true, none), name :: rest =>
          match Builtin.namedOption? name with
          | none => { state, fault := some s!"Illegal option {String.singleton sign}o {name}" }
          | some (some letter) => invocation (state.switch letter (sign = '-')) rest
          | some none => invocation state rest
    | [] => { arguments := argument :: rest, state }

end Invocation

/-- What a shell knows before its first command. -/
def prepared (state : State) (process parent : Nat) (place : String) : State :=
  let values := [("OPTIND", "1"), ("PPID", toString parent), ("PS1", "# "), ("PS2", "> "), ("PS4", "+ "), ("IFS", " \t\n")]
  let state := (state.assignAll values).mark (fun entry => { entry with exported := true, value := some place }) "PWD"
  let state := if (state.value? "PATH").isNone then state.assign "PATH" Lookup.standardPath else state
  { state with process }

/-- A shell with the given source, up to its end. -/
def run (script : String) (mayEnd shows : Bool) (state : State) : Program :=
  .call .processNumber fun own =>
    .call .parentNumber fun parent =>
      .call .currentDirectory fun place =>
        match own, parent, place with
        | .number process, .number parent, .text place =>
          Evaluator.run Program.rounds (.ofText script) mayEnd shows (prepared state process parent place) fun after =>
            Evaluator.finish Program.rounds after
        | _, _, _ => .exit 2

/-- The shell: its commands come from an argument, from a file, or from its input. -/
def program (arguments : List String) (environment : Environment) : Program :=
  let called := arguments.headD "sh"
  let start : State := { name := called, bindings := State.ofEnvironment environment }
  let invocation := Invocation.parse (arguments.length + 1) start arguments.tail
  let state := invocation.state
  let refuse (text : String) : Program := Program.writeText Builtin.errorDescriptor s!"{called}: 0: {text}\n" fun _ => .exit 2
  match invocation.fault with
  | some fault => refuse fault
  | none =>
    if invocation.hasScript then
      match invocation.arguments with
      | [] => refuse "-c requires an argument"
      | script :: [] => run script (!state.isOn 's') false state
      | script :: name :: arguments => run script (!state.isOn 's') false { state with name, arguments }
    else
      let fromInput (arguments : List String) : Program :=
        Program.readAll 0 fun bytes => run (Evaluator.scriptText bytes) false true { state.switch 's' true with arguments }
      match invocation.arguments with
      | [] => fromInput []
      | path :: arguments =>
        if state.isOn 's' then fromInput (path :: arguments)
        else
          .call (.openFile Evaluator.scriptDescriptor ⟨path⟩ .read) fun
            | .failed .isDirectory => .exit 0
            | .failed fault => refuse s!"cannot open {path}: {Opening.reason false fault}"
            | _ =>
              Program.readAll Evaluator.scriptDescriptor fun bytes =>
                Program.perform (.close Evaluator.scriptDescriptor) fun _ =>
                  run (Evaluator.scriptText bytes) false true { state with name := path, arguments }

end BuildWatch.Shell
