import BuildWatch.Proofs.JsonValues

/-! What has been read when a reader of values succeeds: every reader is led back to the readers of its parts. -/

namespace BuildWatch.Json

/-- What is no container is a text behind a quote, or neither a text nor a container. -/
theorem readPlain_ok {text rest : List Char} {value : Json} (read : readPlain text = .ok (value, rest)) :
    (∃ behind told, text = '"' :: behind ∧ readText behind = .ok (told, rest) ∧ value = string told) ∨
      (∀ told, value ≠ string told) ∧ ∀ fields, value ≠ object fields := by
  unfold readPlain at read
  split at read
  next => cases read
  next =>
    obtain ⟨_, -, rfl⟩ := raw_of_map (fun _ => null) read
    exact .inr ⟨nofun, nofun⟩
  next =>
    obtain ⟨_, -, rfl⟩ := raw_of_map (fun _ => boolean true) read
    exact .inr ⟨nofun, nofun⟩
  next =>
    obtain ⟨_, -, rfl⟩ := raw_of_map (fun _ => boolean false) read
    exact .inr ⟨nofun, nofun⟩
  next =>
    obtain ⟨_, -, rfl⟩ := raw_of_map number read
    exact .inr ⟨nofun, nofun⟩
  next behind =>
    obtain ⟨told, found, rfl⟩ := raw_of_map string read
    exact .inl ⟨behind, told, rfl, found, rfl⟩
  next =>
    split at read
    next =>
      obtain ⟨_, -, rfl⟩ := raw_of_map number read
      exact .inr ⟨nofun, nofun⟩
    next => cases read

theorem readValue_ok {depth : Nat} {text rest : List Char} {value : Json}
    (read : readValue depth text = .ok (value, rest)) :
    (∃ items, value = list items) ∨
    (∃ lower inside fields, depth = lower + 1 ∧ skipSpace text = '\x7b' :: inside ∧
      objectOf (freeField (readValue lower)) [] inside = .ok (fields, rest) ∧ value = object fields.reverse) ∨
    readPlain (skipSpace text) = .ok (value, rest) := by
  cases depth with
  | zero =>
    simp only [readValue] at read
    split at read
    next => cases read
    next => cases read
    next => exact .inr (.inr read)
  | succ lower =>
    simp only [readValue] at read
    split at read
    next =>
      obtain ⟨items, -, rfl⟩ := raw_of_map _ read
      exact .inl ⟨items, rfl⟩
    next inside ahead =>
      obtain ⟨fields, found, rfl⟩ := raw_of_map (fun fields : List (String × Json) => object fields.reverse) read
      exact .inr (.inl ⟨lower, inside, fields, rfl, ahead, found, rfl⟩)
    next => exact .inr (.inr read)

theorem readValue_string {depth : Nat} {text rest : List Char} {told : String} :
    readValue depth text = .ok (string told, rest) ↔
      ∃ behind, skipSpace text = '"' :: behind ∧ readText behind = .ok (told, rest) := by
  constructor
  · intro read
    rcases readValue_ok read with ⟨items, shape⟩ | ⟨_, _, _, _, _, _, shape⟩ | plain
    · cases shape
    · cases shape
    · rcases readPlain_ok plain with ⟨behind, same, ahead, found, shape⟩ | ⟨other, -⟩
      · cases shape
        exact ⟨behind, ahead, found⟩
      · exact (other told rfl).elim
  · rintro ⟨behind, ahead, found⟩
    rw [readValue_plain depth ahead (by decide) (by decide), readPlain, found]
    rfl

/-! ### Containers -/

theorem freeField_ok {value : Reader Json} {before after : List (String × Json)} {key : String} {text rest : List Char}
    (taken : freeField value before key text = .ok (after, rest)) :
    ∃ behind content, readColon text = .ok ((), behind) ∧ value behind = .ok (content, rest) ∧
      after = (key, content) :: before := by
  simp only [freeField] at taken
  split at taken
  next => cases taken
  next colon =>
    split at taken
    next => cases taken
    next read =>
      cases taken
      exact ⟨_, _, colon, read, rfl⟩

theorem readFields_ok {σ : Type} {field : σ → String → Reader σ} {fuel : Nat} {begun : Bool} {given : σ}
    {text : List Char} {read : σ × List Char} (taken : readFields field (fuel + 1) begun given text = .ok read) :
    (nextKey begun text = .ok none ∧ read = (given, text)) ∨
      ∃ ahead key behind state rest, nextKey begun text = .ok (some ahead) ∧ readText ahead = .ok (key, behind) ∧
        field given key behind = .ok (state, rest) ∧ readFields field fuel false state rest = .ok read := by
  simp only [readFields] at taken
  split at taken
  next => cases taken
  next ended =>
    cases taken
    exact .inl ⟨ended, rfl⟩
  next ahead next =>
    split at taken
    next => cases taken
    next key behind spelled =>
      split at taken
      next => cases taken
      next state rest found => exact .inr ⟨ahead, key, behind, state, rest, next, spelled, found, taken⟩

theorem readFields_cons {σ : Type} {field : σ → String → Reader σ} {fuel : Nat} {begun : Bool} {given : σ}
    {text ahead behind : List Char} {key : String} (next : nextKey begun text = .ok (some ahead))
    (named : readText ahead = .ok (key, behind)) :
    readFields field (fuel + 1) begun given text =
      field given key behind >>= fun (state, rest) => readFields field fuel false state rest := by
  simp only [readFields, next, named]
  cases field given key behind <;> rfl

theorem closing_ok {α : Type} {bracket : Char} {content : Reader α} {text : List Char} {read : α × List Char}
    (taken : closing bracket content text = .ok read) :
    ∃ rest, content text = .ok (read.1, rest) ∧ read.2 = close bracket rest := by
  simp only [closing] at taken
  split at taken
  next rest found =>
    cases taken
    exact ⟨rest, found, rfl⟩
  next => cases taken
  next => cases taken

end BuildWatch.Json
