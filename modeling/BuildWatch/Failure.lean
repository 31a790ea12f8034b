import BuildWatch.Text.Lines

/-! How a run that fails ends: with a message, and with the causes behind it. -/

namespace BuildWatch

/-- A failure as a whole: what could not be done, and why. -/
structure Failure where
  message : String
  cause : Option String := none
  deriving DecidableEq, Inhabited

namespace Failure

/-- Every line of a cause stands under its message. -/
def indented (text : String) : String := "\n".intercalate ((text.splitOn "\n").map ("    " ++ ·))

def text (failure : Failure) : String :=
  let behind :=
    match failure.cause with
    | none => ""
    | some cause => s!"\nCaused by:\n{indented cause}\n"
  s!"Error: {failure.message}\n{behind}"

def exitCode : Nat := 1

end Failure

end BuildWatch
