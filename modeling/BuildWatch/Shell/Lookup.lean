import BuildWatch.Shell.Builtin

/-! Finding the program that a command names, becoming it, and saying what a name stands for. -/

namespace BuildWatch.Shell

open Machine

namespace Lookup

/-- Where programs are looked for if nothing else is said. -/
def standardPath : String := "/usr/local/sbin:/usr/local/bin:/usr/sbin:/usr/bin:/sbin:/bin"

def candidates (path name : String) : List String :=
  (path.splitOn ":").map fun directory => if directory.isEmpty then name else directory ++ "/" ++ name

def hasSlash (name : String) : Bool := name.toList.contains '/'

def reason : FileError → String
  | .notFound => "not found"
  | .notDirectory => "not found"
  | fault => fault.reason

/-- What a file operation leaves of an earlier fault: that something is missing does not count. -/
def worse (earlier fault : FileError) : FileError :=
  if fault = .notFound || fault = .notDirectory then earlier else fault

/-- The first file among some paths that can be executed. -/
def firstProgram (index : Nat) (fault : FileError) : List String → (Except FileError Nat → Program) → Program
  | [], next => next (.error fault)
  | path :: rest, next =>
    .call (.inspect ⟨path⟩) fun
      | .kind (.file _ true) => next (.ok index)
      | .failed other => firstProgram (index + 1) (worse fault other) rest next
      | _ => firstProgram (index + 1) .notPermitted rest next

/-- Where in the search path a name is found. What has been found once is remembered, unless the path is
another one than usual. -/
def find (path : Option String) (name : String) (state : State) (next : Except FileError Nat → State → Program) : Program :=
  if hasSlash name then next (.ok 0) state
  else
    match path, (state.tracked.find? (·.1 == name)).map (·.2) with
    | none, some index => next (.ok index) state
    | path, _ =>
      firstProgram 0 .notFound (candidates (path.getD (state.valueOf "PATH")) name) fun
        | .ok index => next (.ok index) (if path.isNone then { state with tracked := state.tracked ++ [(name, index)] } else state)
        | .error fault => next (.error fault) state

/-- The shell that carries out files which are no programs. -/
def scriptShell : String := "/bin/sh"

/-- Becomes the first of several programs that can be executed, and goes on only if there is none. -/
def become (arguments : List String) (environment : Environment) (fault : FileError) :
    List String → (FileError → Program) → Program
  | [], next => next fault
  | path :: rest, next =>
    .call (.execute ⟨path⟩ arguments environment) fun
      | .failed .unknownFormat =>
        .call (.execute ⟨scriptShell⟩ (scriptShell :: path :: arguments.tail) environment) fun
          | .failed other => become arguments environment (worse fault other) rest next
          | _ => next fault
      | .failed other => become arguments environment (worse fault other) rest next
      | _ => next fault

/-- The status of a shell whose command could not be executed. -/
def statusOf : FileError → Nat
  | .notFound => 127
  | .notDirectory => 127
  | .tooManyLinks => 127
  | .nameTooLong => 127
  | _ => 126

/-- Becomes the program of a name, from a place of the search path on. -/
def execute (path : Option String) (index : Nat) (name : String) (arguments : List String) (state : State)
    (next : State → Program) : Program :=
  let paths := if hasSlash name then [name] else (candidates (path.getD (state.valueOf "PATH")) name).drop index
  become (name :: arguments) state.environment .notFound paths fun fault =>
    Builtin.complain (statusOf fault) s!"{name}: {reason fault}" state next

/-- Commands of the shell that need more than themselves. -/
def isControl (name : String) : Bool := [".", "break", "continue", "eval", "exec", "exit", "return"].contains name

def isSpecial (name : String) : Bool := isControl name || (Builtin.special? name).isSome

def isBuiltin (name : String) : Bool :=
  isSpecial name || (Builtin.regular? name).isSome || ["command", "hash", "type"].contains name

/-- Says what a name stands for, at length or just with the words that would have it carried out. -/
def describe (path : Option String) (long : Bool) (name : String) (state : State) (next : Next) : Program :=
  let say (text brief : String) : Program := Builtin.writeLines [if long then s!"{name}{text}" else brief] state next
  if Token.keywords.contains name then say " is a shell keyword" name
  else
    match state.alias? name with
    | some value => say s!" is an alias for {value}" s!"alias {Builtin.aliasLine (name, value)}"
    | none =>
      if (state.function? name).isSome then say " is a shell function" name
      else if isBuiltin name then say (if isSpecial name then " is a special shell builtin" else " is a shell builtin") name
      else
        let missing : Program :=
          Program.writeText Builtin.outputDescriptor (if long then s!"{name}: not found\n" else "") fun _ =>
            next (state.settle 127)
        if hasSlash name then
          .call (.inspect ⟨name⟩) fun
            | .kind _ => say s!" is {name}" name
            | _ => missing
        else
          let isTracked := path.isNone && state.tracked.any (·.1 == name)
          find path name state fun found state =>
            match found with
            | .ok index =>
              let place := (candidates (path.getD (state.valueOf "PATH")) name)[index]?.getD name
              let text := if isTracked then s!" is a tracked alias for {place}" else s!" is {place}"
              Builtin.writeLines [if long then name ++ text else place] state next
            | .error _ => missing

def describeAll (status : Nat) : List String → State → Next → Program
  | [], state, next => next (state.settle status)
  | name :: rest, state, next =>
    describe none true name state fun state => describeAll (max status state.status) rest state next

def type : Builtin := Builtin.withOptions "" fun options state next => describeAll 0 options.operands state next

/-- What is left of a command that only names another one has been carried out elsewhere. -/
def command : Builtin :=
  Builtin.withOptions "pvV" fun options state next =>
    match options.operands with
    | name :: _ =>
      if options.has 'v' || options.has 'V' then
        describe (if options.has 'p' then some standardPath else none) (options.has 'V') name state next
      else next (state.settle 0)
    | [] => next (state.settle 0)

/-- How many heaps looked up commands are kept in. -/
def heaps : Nat := 31

def hashEach (status : Nat) : List String → State → Next → Program
  | [], state, next => next (state.settle status)
  | name :: rest, state, next =>
    if isBuiltin name || (state.function? name).isSome then hashEach status rest state next
    else
      find none name { state with tracked := state.tracked.filter (·.1 != name) } fun found state =>
        match found with
        | .ok _ => hashEach status rest state next
        | .error fault => Builtin.complain 1 s!"{name}: {reason fault}" state fun state => hashEach 1 rest state next

/-- Lists, forgets or renews what is known about commands. -/
def hash : Builtin :=
  Builtin.withOptions "r" fun options state next =>
    if options.has 'r' then next ({ state with tracked := [] }.settle 0)
    else if options.operands.isEmpty then
      let places := (State.byHeapOf heaps state.tracked).map fun (name, index) =>
        (candidates (state.valueOf "PATH") name)[index]?.getD name
      Builtin.writeLines places state next
    else hashEach 0 options.operands state next

def builtin? (name : String) : Option Builtin :=
  match name with
  | "command" => some command
  | "hash" => some hash
  | "type" => some type
  | name => (Builtin.special? name).or (Builtin.regular? name)

/-- The file of commands that a name stands for. -/
def firstFile : List String → (Option String → Program) → Program
  | [], next => next none
  | path :: rest, next =>
    .call (.inspect ⟨path⟩) fun
      | .kind (.file _ _) => next (some path)
      | _ => firstFile rest next

end Lookup

/-- What the fields of a command ask for. -/
structure Errand where
  name : String
  arguments : List String
  function : Option Command := none
  /-- Where to look for a program, if not in the usual search path. -/
  path : Option String := none
  /-- A fault in the command ends the shell, and assignments in front of it last. -/
  isSpecial : Bool := false

namespace Errand

/-- The command that is named behind `command`, and whether the standard search path is asked for. -/
def behindCommand : List String → Option (Bool × List String)
  | [] => none
  | "--" :: rest => if rest.isEmpty then none else some (false, rest)
  | text :: rest =>
    match text.toList with
    | '-' :: letter :: letters =>
      if (letter :: letters).all (· = 'p') then (behindCommand rest).map fun (_, fields) => (true, fields) else none
    | _ => some (false, text :: rest)

def ofFields (fuel : Nat) (isFirst : Bool) (path : Option String) (state : State) : List String → Option Errand
  | [] => none
  | name :: arguments =>
    match fuel, if isFirst then state.function? name else none with
    | _, some body => some { name, arguments, function := some body }
    | fuel + 1, none =>
      match if name = "command" then behindCommand arguments else none with
      | some (isStandard, fields) => ofFields fuel false (if isStandard then some Lookup.standardPath else path) state fields
      | none => some { name, arguments, path, isSpecial := isFirst && Lookup.isSpecial name }
    | 0, none => none

end Errand

end BuildWatch.Shell
