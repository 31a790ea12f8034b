import BuildWatch.Proofs.JsonTokens

/-! What a value takes from a text. Containers keep their content neutral, so a value is a neutral piece however
deep it goes, and it ends at the same place if a line feed follows the text. -/

namespace BuildWatch.Json
open BuildWatch.Tool.Balance

theorem nextItem_closed {first : Bool} {text rest : List Char} (ahead : skipSpace text = ']' :: rest) :
    nextItem first text = .ok none := by
  simp only [nextItem, ahead]

theorem nextItem_item (first : Bool) {text later : List Char} {c : Char} (ahead : skipSpace text = c :: later)
    (closing : c ≠ ']') (comma : c ≠ ',') :
    nextItem first text =
      if first then .ok (some (c :: later)) else .error (.ahead .expectedListEnd (c :: later)) := by
  simp [nextItem, ahead, closing, comma]

theorem nextItem_comma {text rest : List Char} (ahead : skipSpace text = ',' :: rest) {later : List Char} {c : Char}
    (behind : skipSpace rest = c :: later) (closing : c ≠ ']') : nextItem false text = .ok (some (c :: later)) := by
  simp [nextItem, ahead, behind, closing]

theorem nextKey_closed {first : Bool} {text rest : List Char} (ahead : skipSpace text = '\x7d' :: rest) :
    nextKey first text = .ok none := by
  simp only [nextKey, ahead]

theorem readPlain_digit {c : Char} (digit : isDigit c = true) (rest : List Char) :
    readPlain (c :: rest) = (readNumber false (c :: rest)).map fun (value, rest) => (number value, rest) := by
  have differs : ∀ other, isDigit other = false → c ≠ other := fun other letter => ne_of_digit digit letter
  simp [readPlain, digit, differs 'n' rfl, differs 't' rfl, differs 'f' rfl, differs '-' rfl, differs '"' rfl]

theorem readValue_plain (depth : Nat) {text later : List Char} {c : Char} (ahead : skipSpace text = c :: later)
    (list : c ≠ '[') (object : c ≠ '\x7b') : readValue depth text = readPlain (c :: later) := by
  cases depth <;> simp [readValue, ahead, list, object]

theorem readValue_list (depth : Nat) {text rest : List Char} (ahead : skipSpace text = '[' :: rest) :
    readValue (depth + 1) text = (listOf (readValue depth) rest).map fun (items, rest) => (list items, rest) := by
  simp only [readValue, ahead]

theorem readValue_object (depth : Nat) {text rest : List Char} (ahead : skipSpace text = '\x7b' :: rest) :
    readValue (depth + 1) text =
      (objectOf (freeField (readValue depth)) [] rest).map fun (fields, rest) => (object fields.reverse, rest) := by
  simp only [readValue, ahead]

end BuildWatch.Json
