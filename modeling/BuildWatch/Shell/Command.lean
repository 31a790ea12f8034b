/-! Commands of a shell as they are written, before any expansion. -/

namespace BuildWatch.Shell

inductive Redirect where
  | input
  | output
  /-- Writes over a file even where the shell protects its files. -/
  | clobber
  | append
  | inputOutput
  | duplicate
  | hereText
  deriving DecidableEq, Inhabited

mutual

/-- A piece of a word. Quoted pieces are not split into fields. -/
inductive Part where
  | text (chars : List Char) (quoted : Bool)
  | parameter (name : String) (modifier : Modifier) (quoted : Bool)
  | substitution (command : Command) (quoted : Bool)
  | arithmetic (expression : List Part) (quoted : Bool)

/-- What is done with the value of a parameter. Where `orEmpty` is set an empty value counts as none. -/
inductive Modifier where
  | plain
  | length
  | useDefault (orEmpty : Bool) (word : List Part)
  | assignDefault (orEmpty : Bool) (word : List Part)
  | useAlternative (orEmpty : Bool) (word : List Part)
  | demand (orEmpty : Bool) (word : List Part)
  | trim (atFront longest : Bool) (pattern : List Part)
  /-- Something that cannot be done, which is found out when it is to be done. -/
  | bad

inductive Redirection where
  | mk (descriptor : Nat) (kind : Redirect) (target : List Part)

/-- Commands that may have something to complain about know their lines. -/
inductive Command where
  | nothing
  | simple (line : Nat) (assignments : List (String × List Part)) (words : List (List Part))
      (redirections : List Redirection)
  | pipeline (stages : List Command)
  | negation (command : Command)
  | both (first second : Command)
  | either (first second : Command)
  | sequence (commands : List Command)
  | background (command : Command)
  | subshell (line : Nat) (body : Command) (redirections : List Redirection)
  | redirected (line : Nat) (body : Command) (redirections : List Redirection)
  | branch (condition body otherwise : Command)
  | loop (untilTrue : Bool) (condition body : Command)
  | each (line : Nat) (name : String) (words : List (List Part)) (body : Command)
  | choose (line : Nat) (word : List Part) (arms : List (List (List Part) × Command))
  | define (line : Nat) (name : String) (body : Command)

end

instance : Inhabited Command := ⟨.nothing⟩

abbrev Word : Type := List Part

namespace Word

/-- Neighbouring texts of one kind put together. -/
def merge : Word → Word
  | .text a first :: rest =>
    match merge rest with
    | .text b second :: later => if first = second then .text (a ++ b) first :: later else .text a first :: .text b second :: later
    | later => .text a first :: later
  | part :: rest => part :: merge rest
  | [] => []

/-- The text of a word that has nothing in it but plain text. -/
def plain? : Word → Option String
  | [] => some ""
  | [.text chars false] => some (String.ofList chars)
  | _ => none

/-- All the text in a word as it is written. -/
def text (word : Word) : List Char :=
  word.flatMap fun
    | .text chars _ => chars
    | _ => []

def isQuoted (word : Word) : Bool :=
  word.any fun
    | .text _ quoted => quoted
    | _ => false

end Word

end BuildWatch.Shell
