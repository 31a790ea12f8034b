import BuildWatch.Toolbox.Basic

/-! Lines from several inputs, one after the other, each taken only when it is asked for. -/

namespace BuildWatch.Toolbox

open Machine

structure Line where
  text : String
  /-- There is a line feed behind it. -/
  ended : Bool := true
  /-- The input that it comes from. -/
  source : String := "-"
  deriving Inhabited

structure Feed where
  /-- Inputs that have not been opened yet. -/
  waiting : List String
  /-- The input that is being read, and its descriptor. -/
  current : Option (String × Nat) := none
  ready : List Line := []
  /-- The beginning of a line whose end has not come yet. -/
  begun : List Char := []
  /-- All inputs could be opened. -/
  clean : Bool := true
  /-- Ends a line. -/
  separator : Char := '\n'

namespace Feed

def ofPaths (paths : List String) : Feed := { waiting := if paths.isEmpty then ["-"] else paths }

/-- Whole lines of a text, and the beginning of one at its end. -/
def cut (separator : Char) (source : String) (held : List Char) : List Char → List Line × List Char
  | [] => ([], held)
  | c :: rest =>
    if c = separator then
      let (lines, behind) := cut separator source [] rest
      ({ text := String.ofList held.reverse, source } :: lines, behind)
    else cut separator source (c :: held) rest

/-- The next line, if there is one. -/
def next (fault : String → FileError → (Unit → Program) → Program) (fuel : Nat) (feed : Feed)
    (go : Option Line → Feed → Program) : Program :=
  match fuel with
  | 0 => .exit 1
  | fuel + 1 =>
    match feed.ready with
    | line :: ready => go (some line) { feed with ready }
    | [] =>
      match feed.current with
      | none =>
        match feed.waiting with
        | [] => go none feed
        | "-" :: waiting => next fault fuel { feed with waiting, current := some ("-", 0) } go
        | path :: waiting =>
          .call (.openFile inputDescriptor ⟨path⟩ .read) fun
            | .failed reason => fault path reason fun _ => next fault fuel { feed with waiting, clean := false } go
            | _ => next fault fuel { feed with waiting, current := some (path, inputDescriptor) } go
      | some (source, descriptor) =>
        .call (.read descriptor 65536) fun
          | .bytes (byte :: more) =>
            let (ready, rest) := cut feed.separator source feed.begun (ByteText.ofBytes (byte :: more)).toList
            next fault fuel { feed with ready, begun := rest } go
          | _ =>
            let ready := if feed.begun.isEmpty then [] else [{ text := String.ofList feed.begun.reverse, ended := false, source }]
            let after := { feed with current := none, ready, begun := [] }
            if descriptor = 0 then next fault fuel after go
            else Program.perform (.close descriptor) fun _ => next fault fuel after go

/-- The next line stays where it is; whether there is one is known. -/
def look (fault : String → FileError → (Unit → Program) → Program) (feed : Feed) (go : Bool → Feed → Program) : Program :=
  next fault Program.rounds feed fun line feed =>
    match line with
    | some line => go true { feed with ready := line :: feed.ready }
    | none => go false feed

end Feed

/-- Output that is held back until there is enough of it. -/
structure Outlet where
  held : List String := []
  size : Nat := 0

namespace Outlet

/-- How much is written at once. -/
def enough : Nat := 4096

def bytes (outlet : Outlet) : List UInt8 := ByteText.toBytes (String.join outlet.held.reverse)

def flush (outlet : Outlet) (next : Outlet → Program) : Program :=
  if outlet.held.isEmpty then next outlet else Program.perform (.write 1 outlet.bytes) fun _ => next {}

def put (text : String) (outlet : Outlet) (next : Outlet → Program) : Program :=
  let outlet := { outlet with held := text :: outlet.held, size := outlet.size + text.length }
  if outlet.size < enough then next outlet else outlet.flush next

end Outlet

end BuildWatch.Toolbox
