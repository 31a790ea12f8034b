import BuildWatch.Proofs.DocumentBalance

/-! What the readers of words, numbers and texts take from a text. A token is a neutral piece, and where it ends
does not depend on a line feed behind the text. -/

namespace BuildWatch.Json
open BuildWatch.Tool.Balance

/-- A reader passes over a neutral piece, and a line feed behind its text means nothing to it. -/
def Reads {α : Type} (reader : Reader α) : Prop :=
  ∀ text value rest, reader text = .ok (value, rest) →
    Passes text rest ∧ reader (text ++ ['\n']) = .ok (value, rest ++ ['\n'])

theorem Reads.behind {α : Type} {reader : Reader α} (reads : Reads reader) {c : Char} (plain : isPlain c = true)
    {text rest : List Char} {value : α} (read : reader text = .ok (value, rest)) :
    Passes (c :: text) rest ∧ reader (text ++ ['\n']) = .ok (value, rest ++ ['\n']) := by
  obtain ⟨passes, fed⟩ := reads text value rest read
  exact ⟨(Passes.plain plain text).trans passes, fed⟩

theorem raw_of_map {α β : Type} (convert : α → β) {result : Except Fault (α × List Char)} {value : β}
    {rest : List Char} (read : (result.map fun (raw, rest) => (convert raw, rest)) = .ok (value, rest)) :
    ∃ raw, result = .ok (raw, rest) ∧ convert raw = value := by
  cases result with
  | error fault => cases read
  | ok found =>
    cases read
    exact ⟨found.1, rfl, rfl⟩

theorem Reads.map {α β : Type} {reader : Reader α} (reads : Reads reader) (convert : α → β) :
    Reads fun text => (reader text).map fun (value, rest) => (convert value, rest) := by
  intro text value rest read
  obtain ⟨raw, found, rfl⟩ := raw_of_map _ read
  obtain ⟨passes, fed⟩ := reads _ _ _ found
  exact ⟨passes, by simp only [fed, Except.map]⟩

theorem ne_of_digit {c other : Char} (digit : isDigit c = true) (letter : isDigit other = false) : c ≠ other := by
  rintro rfl
  rw [digit] at letter
  cases letter

/-- The digits of an exponent, behind its sign. -/
def readPower (negative down : Bool) (significand : Nat) (exponent : Int) : Reader Numeral
  | [] => .error (.at .endInValue [])
  | c :: rest =>
    if !isDigit c then .error (.ahead .invalidNumber (c :: rest))
    else
      let (power, _, rest) := takeDigits (Nat.pow 2 31) 0 0 (c :: rest)
      if startsWithDigit rest then
        if significand != 0 && !down then .error (.ahead .numberTooLarge rest)
        else .ok (.double (if negative then Double.negate 0 else 0), rest.dropWhile isDigit)
      else double negative significand (if down then exponent - power else exponent + power) rest

/-- What may follow the whole part of a number: a fraction, an exponent, or nothing that belongs to it. -/
def readTail (negative : Bool) (significand : Nat) (exponent : Int) (done : Reader Numeral) : Reader Numeral
  | '.' :: rest => readFraction negative significand exponent rest
  | 'e' :: rest | 'E' :: rest => readExponent negative significand exponent rest
  | rest => done rest

theorem readNumber_zero (negative : Bool) (rest : List Char) :
    readNumber negative ('0' :: rest) =
      if startsWithDigit rest then .error (.ahead .invalidNumber rest)
      else readTail negative 0 0 (fun rest => .ok (whole negative 0, rest)) rest := rfl

theorem readNumber_digits (negative : Bool) {c : Char} (nonzero : c ≠ '0') (rest : List Char) :
    readNumber negative (c :: rest) =
      if !isDigit c then .error (.ahead .invalidNumber (c :: rest))
      else
        let (value, _, behind) := takeDigits (Nat.pow 2 64) 0 0 (c :: rest)
        let further := behind.takeWhile isDigit
        readTail negative value further.length
          (fun rest =>
            if further.isEmpty then .ok (whole negative value, rest) else double negative value further.length rest)
          (behind.dropWhile isDigit) := by
  unfold readNumber
  split
  next empty => cases empty
  next zero => exact absurd (List.cons.inj zero).1 nonzero
  next same =>
    cases same
    rfl

/-- The text in front of the quote that ends a quotation is interior. -/
def Continues (text rest : List Char) : Prop := ∃ piece, text = piece ++ rest ∧ Interior piece

theorem Continues.refl (text : List Char) : Continues text text := ⟨[], rfl, .nil⟩

theorem Continues.trans {text middle rest : List Char} (one : Continues text middle) (two : Continues middle rest) :
    Continues text rest := by
  obtain ⟨first, rfl, interior⟩ := one
  obtain ⟨second, rfl, also⟩ := two
  exact ⟨first ++ second, (List.append_assoc ..).symm, interior.append also⟩

theorem hexValue?_plain {c : Char} {value : Nat} (hex : hexValue? c = some value) : c ≠ '"' ∧ c ≠ '\\' ∧ c ≠ '\n' := by
  refine ⟨?_, ?_, ?_⟩
  all_goals
    rintro rfl
    cases hex

theorem Continues.hex {c : Char} {value : Nat} (hex : hexValue? c = some value) (rest : List Char) :
    Continues (c :: rest) rest := by
  obtain ⟨quote, escape, feed⟩ := hexValue?_plain hex
  exact ⟨[c], rfl, .plain quote escape feed⟩

theorem readChar_escape {c meant : Char} (number : c ≠ 'u') (escape : shortEscape? c = some meant) (rest : List Char) :
    readChar ('\\' :: c :: rest) = .ok (some meant, rest) := by
  simp [readChar, escape]

theorem readChar_plain {c : Char} (quote : c ≠ '"') (escape : c ≠ '\\') (rest : List Char) :
    readChar (c :: rest) =
      if c.toNat < 0x20 then .error (.ahead .controlCharacter (c :: rest)) else .ok (some c, rest) := by
  simp [readChar, escape]

end BuildWatch.Json
