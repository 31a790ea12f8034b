import BuildWatch.Shell.Lookup
import BuildWatch.Shell.Opening
import BuildWatch.Shell.Reader

/-! Carrying out the commands of a shell. A command is turned into a program of the machine that goes on
with the state behind the command. -/

namespace BuildWatch.Shell

open Machine

namespace Evaluator

/-- Whether a loop goes on behind a command, and the state to go on with. -/
def landing (state : State) : Bool × State :=
  match state.jump with
  | none => (true, state)
  | some (.nextRound count) =>
    if count ≤ 1 then (true, { state with jump := none }) else (false, { state with jump := some (.nextRound (count - 1)) })
  | some (.leaveLoops count) =>
    (false, { state with jump := if count ≤ 1 then none else some (.leaveLoops (count - 1)) })
  | some _ => (false, state)

/-- The descriptor that keeps the place of errors while it is redirected. -/
def errorCopy : Nat := 18

/-- The descriptor under which files of commands are read. -/
def scriptDescriptor : Nat := 19

/-- The text of a script that is read from a file. Bytes that are zero are skipped. -/
def scriptText (bytes : List UInt8) : String := ByteText.ofBytes (bytes.filter (· != 0))

/-- What is written in front of commands that are shown, as a word. -/
def showingWord (state : State) : Word :=
  let mark := state.valueOf "PS4"
  match (Reader.readParts Reader.depth .here []).run (Source.ofText mark) with
  | .ok (word, _) => word.merge
  | .error _ => [.text mark.toList true]

/-- Ends the shell with the present status. -/
def leaving (asked : Bool) (state : State) : State := { state with jump := some (.leaveShell asked) }

/-- The number of rounds or loops that an argument gives. -/
def levels? (arguments : List String) (state : State) : Except String Nat :=
  match arguments with
  | [] => .ok (min 1 state.loops)
  | text :: _ =>
    match Builtin.number? text with
    | .error fault => .error fault
    | .ok 0 => .error s!"Illegal number: {text}"
    | .ok count => .ok (min count state.loops)

/-- Commands that change what is carried out next, apart from those that carry out other commands. -/
def way? : String → Option Builtin
  | "break" => some fun arguments state next =>
    match levels? arguments state with
    | .error fault => Builtin.refuse fault state next
    | .ok 0 => next (state.settle 0)
    | .ok count => next { state.settle 0 with jump := some (.leaveLoops count) }
  | "continue" => some fun arguments state next =>
    match levels? arguments state with
    | .error fault => Builtin.refuse fault state next
    | .ok 0 => next (state.settle 0)
    | .ok count => next { state.settle 0 with jump := some (.nextRound count) }
  | "return" => some fun arguments state next =>
    match arguments with
    | [] => next { state with jump := some (.leaveFunction false) }
    | text :: _ =>
      match Builtin.number? text with
      | .error fault => Builtin.refuse fault state next
      | .ok status => next { state.settle status with jump := some (.leaveFunction true) }
  | "exit" => some fun arguments state next =>
    match arguments with
    | [] => next (leaving true (state.settle (state.statusBefore.getD state.status)))
    | text :: _ =>
      match Builtin.number? text with
      | .error fault => Builtin.refuse fault state next
      | .ok status => next (leaving true (state.settle status))
  | "exec" => some (Builtin.withOptions "" fun options state next =>
    match options.operands with
    | [] => next (state.settle 0)
    | name :: arguments =>
      state.forgetCaught fun _ => Lookup.execute none 0 name arguments state fun state => next (leaving false state))
  | _ => none

mutual

/-- Ends the shell, and carries out its last trap before that. -/
def finish (fuel : Nat) (state : State) : Program :=
  match fuel with
  | 0 => state.leave
  | fuel + 1 =>
    match state.trap? "EXIT" with
    | none => state.leave
    | some action =>
      let traps := state.traps.filter (·.1 != "EXIT")
      let last := { state.inMiddle with traps, jump := none, loops := 0, guarded := false, statusBefore := some state.status }
      run fuel (.ofText action) false false last fun after =>
        match after.jump with
        | some .giveUp => after.leave
        | some (.leaveShell _) => after.leave
        | _ => (after.settle state.status).leave

/-- Carries out a source, passage by passage. The last command may take the place of the shell if that is
allowed. -/
def run (fuel : Nat) (source : Source) (mayEnd shows : Bool) (state : State) (next : Next) : Program :=
  match fuel with
  | 0 => state.leave
  | fuel + 1 =>
    match Source.next { source with aliases := state.aliases } with
    | .error fault => Builtin.refuse fault.reason { state with line := fault.line } next
    | .ok (none, _) => next state
    | .ok (some passage, rest) =>
      let shown := if shows && state.isOn 'v' then source.text.take (source.text.length - rest.text.length) else []
      Program.writeText Builtin.errorDescriptor (String.ofList shown) fun _ =>
        eval fuel passage.command { state with isLast := mayEnd && passage.isLast } fun after =>
          if after.jump.isSome then next after else run fuel rest mayEnd shows after next

/-- Carries out a source within a command. Without a command in it, it succeeds. -/
def runWithin (fuel : Nat) (source : Source) (shows : Bool) (state : State) (next : Next) : Program :=
  match fuel with
  | 0 => state.leave
  | fuel + 1 =>
    match Source.next { source with aliases := state.aliases } with
    | .ok (none, _) => next (state.settle 0)
    | .ok (some ⟨.sequence [], _⟩, rest) => runWithin fuel rest shows state next
    | _ => run fuel source false shows state.inMiddle fun after => next { after with isLast := state.isLast }

/-- A command in a process of its own. -/
def runDetached (fuel : Nat) (command : Command) (openings : List Opening) (state : State) : Program :=
  match fuel with
  | 0 => state.leave
  | fuel + 1 =>
    state.forgetCaught fun _ =>
      Opening.openAll (substitute fuel) fuel openings state.detached fun fine state =>
        if fine then eval fuel command state fun after => finish fuel after else finish fuel state

/-- The output of a command without the line feeds at its end. -/
def substitute (fuel : Nat) (command : Command) (state : State) (next : List Char → State → Program) : Program :=
  match fuel with
  | 0 => state.leave
  | fuel + 1 =>
    match command with
    | .sequence [] => next [] state
    | command =>
      .call .connect fun
        | .pair source sink =>
          let child := Program.performAll [.duplicate sink Builtin.outputDescriptor, .close source, .close sink] fun _ =>
            runDetached fuel command [] { state with guarded := false }
          .fork child fun process =>
            Program.perform (.close sink) fun _ =>
              Program.readAll source fun bytes =>
                Program.perform (.close source) fun _ =>
                  Builtin.await process state fun after =>
                    let text := (ByteText.ofBytes bytes).toList.filter (· != '\x00')
                    next (text.reverse.dropWhile (· = '\n')).reverse { state with substituted := some after.status }
        | _ => state.leave

/-- What happens between two commands: signals are answered, and a failure may end the shell. -/
def afterCommand (fuel : Nat) (state : State) (next : Next) : Program :=
  match fuel with
  | 0 => state.leave
  | fuel + 1 =>
    let done (state : State) : Program :=
      if state.status != 0 && state.isOn 'e' && !state.guarded && state.jump.isNone then next (leaving false state)
      else next state
    if state.caughtSignals.isEmpty || state.jump.isSome then done state
    else
      .call .caughtSignals fun
        | .numbers signals => answer fuel signals state done
        | _ => done state

/-- Carries out the commands for signals that have come. -/
def answer (fuel : Nat) (signals : List Nat) (state : State) (next : Next) : Program :=
  match fuel with
  | 0 => state.leave
  | fuel + 1 =>
    match signals with
    | [] => next state
    | signal :: rest =>
      let before := { state.inMiddle with guarded := false, statusBefore := some (state.statusBefore.getD state.status) }
      let action := (state.trap? (Signal.name signal)).getD ""
      run fuel (.ofText action) false false before fun after =>
        let after := { after with isLast := state.isLast, guarded := state.guarded, statusBefore := state.statusBefore }
        match after.jump with
        | none => answer fuel rest (after.settle state.status) next
        | some (.leaveFunction false) => next (after.settle state.status)
        | some (.leaveLoops _) => next (after.settle state.status)
        | some (.nextRound _) => next (after.settle state.status)
        | some _ => next after

/-- Carries something out with redirections that end with it. -/
def redirected (fuel line : Nat) (redirections : List Redirection) (body : Command) (state : State) (next : Next) :
    Program :=
  match fuel with
  | 0 => state.leave
  | fuel + 1 =>
    let back (state : State) : Program := Program.perform .restoreDescriptors fun _ => next state
    Program.perform .keepDescriptors fun _ =>
      Opening.targets (substitute fuel) fuel redirections { state with line } fun openings state =>
        if state.jump.isSome then back state
        else
          Opening.openAll (substitute fuel) fuel openings state fun fine state =>
            if fine then eval fuel body state.inMiddle fun after => back { after with isLast := state.isLast }
            else afterCommand fuel state back

/-- Carries out a command whose failure ends nothing. -/
def guarded (fuel : Nat) (command : Command) (state : State) (next : Next) : Program :=
  match fuel with
  | 0 => state.leave
  | fuel + 1 =>
    eval fuel command { state.inMiddle with guarded := true } fun after =>
      next { after with guarded := state.guarded, isLast := state.isLast }

def eval (fuel : Nat) (command : Command) (state : State) (next : Next) : Program :=
  match fuel with
  | 0 => state.leave
  | fuel + 1 =>
    if state.isOn 'n' then next state
    else
      match command with
      | .nothing => next (state.settle 0)
      | .simple line assignments words redirections =>
        simple fuel assignments words redirections { state with line, substituted := none } fun state =>
          afterCommand fuel state next
      | .pipeline stages =>
        launch fuel false stages none [] state.inMiddle fun after =>
          afterCommand fuel { after with isLast := state.isLast } next
      | .negation command =>
        guarded fuel command state fun after =>
          if after.jump.isSome then next after else next (after.settle (if after.status = 0 then 1 else 0))
      | .both first second =>
        guarded fuel first state fun after =>
          if after.jump.isSome || after.status != 0 then next after else eval fuel second after next
      | .either first second =>
        guarded fuel first state fun after =>
          if after.jump.isSome || after.status = 0 then next after else eval fuel second after next
      | .sequence commands => sequence fuel commands state next
      | .background (.pipeline stages) => launch fuel true stages none [] state next
      | .background (.redirected line body redirections) =>
        background fuel line body redirections state next
      | .background command => background fuel state.line command [] state next
      | .subshell line body redirections =>
        Opening.targets (substitute fuel) fuel redirections { state with line } fun openings state =>
          if state.jump.isSome then next state
          else if state.mayBeReplaced then runDetached fuel body openings state
          else
            .fork (runDetached fuel body openings state) fun process =>
              Builtin.await process state fun state => afterCommand fuel state next
      | .redirected line body redirections => redirected fuel line redirections body state next
      | .branch condition body otherwise =>
        guarded fuel condition state fun after =>
          if after.jump.isSome then next after
          else if after.status = 0 then eval fuel body after next
          else eval fuel otherwise after next
      | .loop untilTrue condition body =>
        loop fuel untilTrue condition body 0 { state.inMiddle with loops := state.loops + 1 } fun after =>
          next { after with loops := state.loops, isLast := state.isLast }
      | .each line name words body =>
        Expansion.allFields (substitute fuel) fuel words { state with line } fun values state =>
          if state.jump.isSome then next state
          else
            each fuel name values body 0 { state.inMiddle with loops := state.loops + 1 } fun after =>
              next { after with loops := state.loops, isLast := state.isLast }
      | .choose line word arms =>
        Expansion.text (substitute fuel) fuel (Expansion.atHome state word) { state with line } fun text state =>
          if state.jump.isSome then next state else choose fuel text.toList arms state next
      | .define line name body => next ((state.define name (.define line name body)).settle 0)

def sequence (fuel : Nat) (commands : List Command) (state : State) (next : Next) : Program :=
  match fuel with
  | 0 => state.leave
  | fuel + 1 =>
    match commands with
    | [] => next state
    | [command] => eval fuel command state next
    | command :: rest =>
      eval fuel command state.inMiddle fun after =>
        if after.jump.isSome then next after else sequence fuel rest { after with isLast := state.isLast } next

def loop (fuel : Nat) (untilTrue : Bool) (condition body : Command) (last : Nat) (state : State) (next : Next) :
    Program :=
  match fuel with
  | 0 => state.leave
  | fuel + 1 =>
    Program.perform .pause fun _ =>
      guarded fuel condition state fun after =>
        match after.jump, landing after with
        | some (.leaveFunction _), _ => next after
        | some .giveUp, _ => next after
        | some (.leaveShell _), _ => next after
        | some _, (true, after) => loop fuel untilTrue condition body last after next
        | _, (false, after) => next (after.settle last)
        | none, (true, after) =>
          if (after.status = 0) == untilTrue then next (after.settle last)
          else
            eval fuel body after fun after =>
              match landing after with
              | (false, after) => next after
              | (true, after) => loop fuel untilTrue condition body after.status after next

def each (fuel : Nat) (name : String) (values : List String) (body : Command) (last : Nat) (state : State) (next : Next) :
    Program :=
  match fuel with
  | 0 => state.leave
  | fuel + 1 =>
    match values with
    | [] => next (state.settle last)
    | value :: rest =>
      Program.perform .pause fun _ =>
        Builtin.assignEach [(name, value)] state fun state =>
          if state.jump.isSome then next state
          else
            eval fuel body state fun after =>
              match landing after with
              | (false, after) => next after
              | (true, after) => each fuel name rest body after.status after next

/-- The first arm with a pattern that fits. -/
def choose (fuel : Nat) (text : List Char) (arms : List (List Word × Command)) (state : State) (next : Next) :
    Program :=
  match fuel with
  | 0 => state.leave
  | fuel + 1 =>
    match arms with
    | [] => next (state.settle 0)
    | ([], _) :: rest => choose fuel text rest state next
    | (pattern :: patterns, body) :: rest =>
      Expansion.parts (substitute fuel) fuel (Expansion.atHome state pattern) state fun glyphs state =>
        if state.jump.isSome then next state
        else if (Pattern.ofChars (Expansion.joined state glyphs)).fits text then
          match body with
          | .sequence [] => next (state.settle 0)
          | body => eval fuel body state next
        else choose fuel text ((patterns, body) :: rest) state next

/-- Starts a command in the background, without input. -/
def background (fuel line : Nat) (command : Command) (redirections : List Redirection) (state : State) (next : Next) :
    Program :=
  match fuel with
  | 0 => state.leave
  | fuel + 1 =>
    Opening.targets (substitute fuel) fuel redirections { state with line } fun openings state =>
      if state.jump.isSome then next state
      else
        let calls : List Call := [.openFile 0 ⟨"/dev/null"⟩ .read, .dispose 2 .ignored, .dispose 3 .ignored]
        .fork (Program.performAll calls fun _ => runDetached fuel command openings { state with guarded := false }) fun process =>
          next ((state.addJob process []).settle 0)

/-- Starts the stages of a pipeline, each in a process of its own, and waits for all of them unless they are
to run in the background. -/
def launch (fuel : Nat) (inBackground : Bool) (stages : List Command) (source : Option Nat) (started : List Nat)
    (state : State) (next : Next) : Program :=
  match fuel with
  | 0 => state.leave
  | fuel + 1 =>
    let alone : List Call :=
      if inBackground then
        (if started.isEmpty then [.openFile 0 ⟨"/dev/null"⟩ .read] else []) ++ [.dispose 2 .ignored, .dispose 3 .ignored]
      else []
    let taking : List Call := alone ++ source.toList.flatMap fun source => [.duplicate source 0, .close source]
    let inner : State := { state with guarded := state.guarded && !inBackground }
    match stages with
    | [] => Builtin.waitAll started.reverse state next
    | [stage] =>
      .fork (Program.performAll taking fun _ => runDetached fuel stage [] inner) fun process =>
        Program.performAll (source.toList.map .close) fun _ =>
          if inBackground then next ((state.addJob process started.reverse).settle 0)
          else Builtin.waitAll (process :: started).reverse state next
    | stage :: rest =>
      .call .connect fun
        | .pair reading writing =>
          let child := .close reading :: taking ++ [.duplicate writing Builtin.outputDescriptor, .close writing]
          .fork (Program.performAll child fun _ => runDetached fuel stage [] inner) fun process =>
            Program.performAll (.close writing :: source.toList.map .close) fun _ =>
              launch fuel inBackground rest (some reading) (process :: started) state next
        | _ => state.leave

/-- A command with its words, its redirections and its assignments, which are seen to in this order. -/
def simple (fuel : Nat) (assignments : List (String × Word)) (words : List Word) (redirections : List Redirection)
    (state : State) (next : Next) : Program :=
  match fuel with
  | 0 => state.leave
  | fuel + 1 =>
    Expansion.command (substitute fuel) fuel [] words state fun fields state =>
      if state.jump.isSome then next state
      else
        let errand := Errand.ofFields (fields.length + 1) true none state fields
        let replaces := errand.any fun errand => errand.name = "exec" && errand.function.isNone
        let keeps := !redirections.isEmpty && !replaces
        let lasts := errand.all (·.isSpecial)
        let back (after : State) : Program :=
          if keeps then Program.perform .restoreDescriptors fun _ => next after else next after
        Program.performAll (if keeps then [.keepDescriptors] else []) fun _ =>
          Opening.targets (substitute fuel) fuel redirections state fun openings state =>
            if state.jump.isSome then back state
            else
              let copies := state.isOn 'x' && openings.any (·.descriptor = Builtin.errorDescriptor)
              Program.performAll (if copies then [.duplicate Builtin.errorDescriptor errorCopy] else []) fun _ =>
                Opening.openAll (substitute fuel) fuel openings state fun fine state =>
                  if !fine then
                    back (if errand.any (·.isSpecial) then { state with jump := some .giveUp } else state)
                  else
                    assign fuel assignments (!lasts) (replaces && 1 < fields.length) [] state fun texts hidden state =>
                      if state.jump.isSome then back state
                      else
                        let place := if copies then errorCopy else Builtin.errorDescriptor
                        showCommand fuel place (texts ++ fields) state fun state =>
                          Program.performAll (if copies then [.close errorCopy] else []) fun _ =>
                            match errand with
                            | none => back (state.settle (state.substituted.getD 0))
                            | some errand =>
                              carryOut fuel errand state fun after =>
                                back (if after.jump matches some (.leaveShell _) then after else after.restoreAll hidden)

/-- Assigns values one after the other; answers how they are shown, and what they hide if they do not last. -/
def assign (fuel : Nat) (assignments : List (String × Word)) (passing exporting : Bool)
    (hidden : List (String × Option Variable)) (state : State)
    (next : List String → List (String × Option Variable) → State → Program) : Program :=
  match fuel with
  | 0 => state.leave
  | fuel + 1 =>
    match assignments with
    | [] => next [] hidden state
    | (name, word) :: rest =>
      Expansion.text (substitute fuel) fuel (Expansion.allAtHome state true word) state fun value state =>
        if state.jump.isSome then next [] hidden state
        else
          let held := if passing then (name, state.binding? name) :: hidden else hidden
          Builtin.assignEach [(name, value)] state fun state =>
            if state.jump.isSome then next [] hidden state
            else
              let state := if passing || exporting then state.exportName name else state
              assign fuel rest passing exporting held state fun texts hidden state =>
                next (s!"{name}={value}" :: texts) hidden state

/-- Shows a command before it is carried out, if that is asked for. -/
def showCommand (fuel place : Nat) (fields : List String) (state : State) (next : Next) : Program :=
  match fuel with
  | 0 => state.leave
  | fuel + 1 =>
    if !state.isOn 'x' then next state
    else
      Expansion.text (substitute fuel) fuel (showingWord state) (state.switch 'x' false) fun mark after =>
        Program.writeText place (mark ++ " ".intercalate fields ++ "\n") fun _ => next (after.switch 'x' true)

/-- Carries out what the fields of a command ask for. -/
def carryOut (fuel : Nat) (errand : Errand) (state : State) (next : Next) : Program :=
  match fuel with
  | 0 => state.leave
  | fuel + 1 =>
    match errand.function with
    | some function => call fuel function errand.arguments state next
    | none =>
      if Lookup.isBuiltin errand.name then
        let done (after : State) : Program :=
          let after := after.spokenBy state.speaker
          if after.jump = some .giveUp && !errand.isSpecial then
            next { after.leaveScopes state.scopes.length with jump := none }
          else next after
        builtin fuel errand.name errand.arguments (state.spokenBy (some errand.name)) done
      else
        Lookup.find errand.path errand.name state fun found state =>
          match found with
          | .error fault => Builtin.complain 127 s!"{errand.name}: {Lookup.reason fault}" state next
          | .ok index =>
            let child := state.forgetCaught fun _ =>
              Lookup.execute errand.path index errand.name errand.arguments state State.leave
            if state.mayBeReplaced then child else .fork child fun process => Builtin.await process state next

def builtin (fuel : Nat) (name : String) (arguments : List String) (state : State) (next : Next) : Program :=
  match fuel with
  | 0 => state.leave
  | fuel + 1 =>
    match name with
    | "eval" =>
      if arguments.isEmpty then next (state.settle 0)
      else runWithin fuel (.ofText (" ".intercalate arguments)) false state next
    | "." => Builtin.withOptions "" (fun options state next => takeIn fuel options.operands state next) arguments state next
    | name =>
      match (way? name).or (Lookup.builtin? name) with
      | some builtin => builtin arguments state next
      | none => next (state.settle 0)

/-- Carries out a file of commands. -/
def takeIn (fuel : Nat) (operands : List String) (state : State) (next : Next) : Program :=
  match fuel with
  | 0 => state.leave
  | fuel + 1 =>
    let go (path : String) : Program :=
      .call (.openFile scriptDescriptor ⟨path⟩ .read) fun
        | .failed .isDirectory => next (state.settle 0)
        | .failed fault => Builtin.refuse s!"cannot open {path}: {Opening.reason false fault}" state next
        | _ =>
          Program.readAll scriptDescriptor fun bytes =>
            Program.perform (.close scriptDescriptor) fun _ =>
              let inner := { state with guarded := false }.spokenBy (some path)
              runWithin fuel (.ofText (scriptText bytes)) true inner fun after =>
                let jump := if after.jump matches some (.leaveFunction _) then none else after.jump
                next { after with guarded := state.guarded, speaker := state.speaker, jump }
    match operands with
    | [] => next (state.settle 0)
    | name :: _ =>
      if Lookup.hasSlash name then go name
      else
        Lookup.firstFile (Lookup.candidates (state.valueOf "PATH") name) fun
          | some path => go path
          | none => Builtin.refuse s!"{name}: not found" state next

/-- Calls a function with arguments of its own. -/
def call (fuel : Nat) (function : Command) (arguments : List String) (state : State) (next : Next) : Program :=
  match fuel with
  | 0 => state.leave
  | fuel + 1 =>
    match function with
    | .define _ _ body =>
      Program.perform .pause fun _ =>
        let inner := { state.inMiddle with scopes := {} :: state.scopes, loops := 0 }
        eval fuel body (inner.withArguments arguments) fun after =>
          let after := { after with arguments := state.arguments, scan := state.scan, loops := state.loops, isLast := state.isLast }
          match after.jump with
          | some .giveUp => next after
          | some (.leaveShell _) => next after
          | some (.leaveFunction _) => next { after.leaveScopes state.scopes.length with jump := none }
          | _ => next (after.leaveScopes state.scopes.length)
    | _ => next state

end

end Evaluator

end BuildWatch.Shell
