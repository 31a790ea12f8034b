import BuildWatch.Proofs.DialectLocations
import BuildWatch.Tool.Problem

/-! Problems on their way from a stats document to the diagnostics of a watch. One that is given in parts is written as one
text and read back from it, and comes out with the file, the position and the message it was given with. -/

namespace BuildWatch.Tool
open BuildWatch.Text Dialect

/-- A problem in parts. Its module is one word, and its place begins with a line and a column. -/
structure Placed (problem : Json) (module line column detail message : String) : Prop where
  named : problem.field? "moduleName" = some (.string module)
  located : problem.field? "loc" = some (.string (line ++ ":" ++ column ++ detail))
  worded : problem.field? "message" = some (.string message)
  word : module ≠ ""
  solid : ∀ c ∈ module.toList, isSpace c = false
  lined : line ≠ ""
  lines : ∀ c ∈ line.toList, isAsciiDigit c = true
  columned : column ≠ ""
  columns : ∀ c ∈ column.toList, isAsciiDigit c = true
  single : '\n' ∉ detail.toList
  apart : Undigited detail.toList

theorem getElem?_problems {document : Json} {key : String} {items : List Json}
    (listed : document.field? key = some (.list items)) (index : Nat) :
    (problems document key)[index]? = (items[index]?).map problemText := by
  simp only [problems, listed, List.getElem?_map]

namespace Placed
variable {problem : Json} {module line column detail message : String}
  (placed : Placed problem module line column detail message)
include placed

theorem problemText_eq : problemText problem = module ++ " " ++ (line ++ ":" ++ column ++ detail) ++ "\n" ++ message := by
  obtain ⟨fields, rfl⟩ : ∃ fields, problem = .object fields := by
    cases problem with
    | object fields => exact ⟨fields, rfl⟩
    | _ => cases placed.named
  have place : line ++ ":" ++ column ++ detail ≠ "" := fun empty => placed.lined (by simp_all)
  simp only [problemText, placed.named, placed.located, placed.worded, nonEmptyString?, Option.bind_some, Json.string?,
    Option.filter, bne_iff_ne, ne_eq, placed.word, place, not_false_eq_true, if_true, Option.getD_some]

/-- The characters of the text, as the plain dialect reads them. -/
theorem toList_problemText : (problemText problem).toList =
    module.toList ++ ' ' :: (line.toList ++ ':' :: (column.toList ++ (detail.toList ++ '\n' :: message.toList))) := by
  simp [placed.problemText_eq]

/-- The message is what stands behind the first line feed, since there is none in what stands before it. -/
theorem cutLine_problemText : (cutLine (problemText problem).toList).2 = some message.toList := by
  have digits {text : List Char} (ascii : ∀ c ∈ text, isAsciiDigit c = true) : '\n' ∉ text := by
    intro feed
    exact absurd (ascii _ feed) (by decide)
  have whole : '\n' ∉ module.toList ++ ' ' :: (line.toList ++ ':' :: (column.toList ++ detail.toList)) := by
    have solid : '\n' ∉ module.toList := by
      intro feed
      exact absurd (placed.solid _ feed) (by decide)
    simp [solid, digits placed.lines, digits placed.columns, placed.single]
  have split : (problemText problem).toList =
      (module.toList ++ ' ' :: (line.toList ++ ':' :: (column.toList ++ detail.toList))) ++ '\n' :: message.toList := by
    simp [placed.toList_problemText]
  rw [split, cutLine_line whole]

theorem plain_problemText : plain (problemText problem).toList =
    some ⟨module.toList, line.toList, column.toList, message.toList⟩ := by
  have nonempty {text : String} (some : text ≠ "") : text.toList ≠ [] := by simpa using some
  have stops : Undigited (detail.toList ++ '\n' :: message.toList) := by
    intro c first
    cases shape : detail.toList with
    | nil =>
      rw [shape] at first
      cases first
      decide
    | cons d later =>
      rw [shape] at first
      cases first
      exact placed.apart _ (by rw [shape]; rfl)
  have position := plainPosition_digits (by decide : isSpace ' ' = true) (nonempty placed.lined)
    (fun c member => isDigit_of_ascii (placed.lines c member)) (nonempty placed.columned)
    (fun c member => isDigit_of_ascii (placed.columns c member)) stops
  have read := plain_word (nonempty placed.word) placed.solid (by decide : isSpace ' ' = true) position
  rw [← placed.toList_problemText, placed.cutLine_problemText] at read
  exact read

end Placed

/-- A text is read as the diagnostic of a problem in parts: its file is the module, seen from the root, its position is the
line and the column of the place, counted from zero and no larger than positions can be, and its message is the very message,
line feeds and all. -/
def ReadBack (module line column message : String) (severity : Severity) (text : String) : Prop :=
  ∀ root, ∃ diagnostic, diagnose severity text root = some diagnostic ∧
    diagnostic.file = resolve ⟨module⟩ root ∧
    diagnostic.span.start.line.toNat = min (Nat.ofDigitChars 10 line.toList 0) (UInt32.size - 1) - 1 ∧
    diagnostic.span.start.character.toNat = min (Nat.ofDigitChars 10 column.toList 0) (UInt32.size - 1) - 1 ∧
    diagnostic.message = message ∧ diagnostic.severity = severity

theorem Placed.readBack {problem : Json} {module line column detail message : String}
    (placed : Placed problem module line column detail message)
    (unbracketed : ∀ row ∈ pieces (problemText problem).toList, row.head? ≠ some '[') (severity : Severity) :
    ReadBack module line column message severity (problemText problem) := by
  intro root
  have located : locate (problemText problem).toList = some ⟨module.toList, line.toList, column.toList, message.toList⟩ := by
    rw [locate, loader_eq_none unbracketed, placed.plain_problemText]
    rfl
  refine ⟨_, by rw [diagnose, located]; rfl, ?_, ?_, ?_, ?_, rfl⟩
  · simp only [Location.diagnostic, String.ofList_toList]
  · simp only [Location.diagnostic, Span.point, fromZero_toNat, number_toNat placed.lines]
  · simp only [Location.diagnostic, Span.point, fromZero_toNat, number_toNat placed.columns]
  · simp only [Location.diagnostic, String.ofList_toList]

/-- Where a problem in parts stands among the errors or the warnings of a document, a text stands for it among those of the
outcome. If no line of that text begins with a bracket, it is read back as what the problem says, as an error or a warning
or whatever it is taken for. -/
theorem placed_problem_is_diagnosed {problem : Json} {module line column detail message : String}
    (placed : Placed problem module line column detail message)
    (unbracketed : ∀ row ∈ pieces (problemText problem).toList, row.head? ≠ some '[')
    {items : List Json} {index : Nat} (standing : items[index]? = some problem) (document : Json) :
    (document.field? "errors" = some (.list items) → ∃ text, (outcomeOf document).errors[index]? = some text ∧
      ReadBack module line column message .error text) ∧
    (document.field? "warnings" = some (.list items) → ∃ text, (outcomeOf document).warnings[index]? = some text ∧
      ReadBack module line column message .warning text) ∧
    ∀ severity, ReadBack module line column message severity (problemText problem) := by
  have stands {key : String} (listed : document.field? key = some (.list items)) :
      (problems document key)[index]? = some (problemText problem) := by
    rw [getElem?_problems listed, standing, Option.map_some]
  exact ⟨fun listed => ⟨_, stands listed, placed.readBack unbracketed .error⟩,
    fun listed => ⟨_, stands listed, placed.readBack unbracketed .warning⟩, placed.readBack unbracketed⟩

/-- A problem before the first line, in a column beyond all positions, with a message of several lines. -/
def remoteProblem : Json := .object [("loc", .string "0:4294967297-9"), ("message", .string "not found\n\n./b.js 5:8\n"),
  ("moduleName", .string "../a.js")]

theorem remoteProblem_placed : Placed remoteProblem "../a.js" "0" "4294967297" "-9" "not found\n\n./b.js 5:8\n" where
  named := rfl
  located := rfl
  worded := rfl
  word := by decide
  solid := fun c member => by
    have solid : "../a.js".toList.all (!isSpace ·) = true := by decide
    exact Bool.not_eq_true' _ ▸ List.all_eq_true.mp solid c member
  lined := by decide
  lines := List.all_eq_true.mp (by decide)
  columned := by decide
  columns := List.all_eq_true.mp (by decide)
  single := by decide
  apart := by
    rintro _ ⟨⟩
    decide

/-- It stands second among the errors, and alone among the warnings. -/
theorem remote_problem_is_diagnosed :
    let document : Json := .object [("errors", .list [.null, remoteProblem]), ("warnings", .list [remoteProblem])]
    (∃ text diagnostic, (outcomeOf document).errors[1]? = some text ∧ diagnose .error text ⟨"/p/q"⟩ = some diagnostic ∧
      diagnostic.file = ⟨"/p/a.js"⟩ ∧ diagnostic.span.start.line.toNat = 0 ∧
      diagnostic.span.start.character.toNat = 4294967294 ∧ diagnostic.message = "not found\n\n./b.js 5:8\n" ∧
      diagnostic.severity = .error) ∧
    ∃ text diagnostic, (outcomeOf document).warnings[0]? = some text ∧ diagnose .warning text ⟨"/p"⟩ = some diagnostic ∧
      diagnostic.file = ⟨"/a.js"⟩ ∧ diagnostic.severity = .warning := by
  intro document
  have unbracketed : ∀ row ∈ pieces (problemText remoteProblem).toList, row.head? ≠ some '[' := by decide +kernel
  have second : [.null, remoteProblem][1]? = some remoteProblem := rfl
  have alone : [remoteProblem][0]? = some remoteProblem := rfl
  obtain ⟨asError, _⟩ := placed_problem_is_diagnosed remoteProblem_placed unbracketed second document
  obtain ⟨_, asWarning, _⟩ := placed_problem_is_diagnosed remoteProblem_placed unbracketed alone document
  obtain ⟨text, stands, readBack⟩ := asError rfl
  obtain ⟨other, standsToo, readBackToo⟩ := asWarning rfl
  obtain ⟨diagnostic, found, file, line, column, message, severity⟩ := readBack ⟨"/p/q"⟩
  obtain ⟨warning, foundToo, fileToo, _, _, _, severityToo⟩ := readBackToo ⟨"/p"⟩
  exact ⟨⟨text, diagnostic, stands, found, file.trans (by decide +kernel), line, column, message, severity⟩,
    other, warning, standsToo, foundToo, fileToo.trans (by decide +kernel), severityToo⟩

end BuildWatch.Tool
