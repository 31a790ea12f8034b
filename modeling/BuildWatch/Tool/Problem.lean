import BuildWatch.Frame

/-! The part of a stats document that matters to a watch: its errors and warnings, each as one text
that begins with the module and the place where they are known. -/

namespace BuildWatch.Tool

def nonEmptyString? (value : Option Json) : Option String :=
  (value.bind Json.string?).filter (· != "")

/-- A problem given as text stands for itself. One given in parts has its message on lines of its own
behind module and place; a place without a module is left out. -/
def problemText : Json → String
  | .string text => text
  | .object fields =>
    let part (key : String) := Json.field? key (.object fields)
    let message := ((part "message").bind Json.string?).getD ""
    match nonEmptyString? (part "moduleName"), nonEmptyString? (part "loc") with
    | some module, some place => module ++ " " ++ place ++ "\n" ++ message
    | some module, none => module ++ "\n" ++ message
    | none, _ => message
  | other => other.compact

def problems (document : Json) (key : String) : List String :=
  match document.field? key with
  | some (.list items) => items.map problemText
  | _ => []

def outcomeOf (document : Json) : Outcome := ⟨problems document "errors", problems document "warnings"⟩

end BuildWatch.Tool
