import BuildWatch.Tool.Transcript

/-! What counting brackets makes of a piece of text. A piece is neutral if it leaves the count as it found it
and never falls below it on the way, so pieces can be put behind one another and into brackets. -/

namespace BuildWatch.Tool.Balance

def outside (depth : Int) : Balance := ⟨depth, true, false, false⟩

def inside (depth : Int) : Balance := ⟨depth, true, true, false⟩

/-- A text leads from one balance to another, never below the floor, with its line feeds outside quoted text. -/
inductive Leads (floor : Int) : Balance → List Char → Balance → Prop where
  | done (balance : Balance) : Leads floor balance [] balance
  | step {balance after : Balance} {c : Char} {rest : List Char} (open_feed : c = '\n' → balance.quoted = false)
      (above : floor ≤ (balance.scan c).depth) (later : Leads floor (balance.scan c) rest after) :
      Leads floor balance (c :: rest) after

namespace Leads

variable {floor : Int} {before middle after : Balance} {first second : List Char}

theorem append (one : Leads floor before first middle) (two : Leads floor middle second after) :
    Leads floor before (first ++ second) after := by
  induction one with
  | done => exact two
  | step open_feed above _ ih => exact step open_feed above (ih two)

theorem lower {lowest : Int} (below : lowest ≤ floor) (leads : Leads floor before first after) :
    Leads lowest before first after := by
  induction leads with
  | done balance => exact done balance
  | step open_feed above _ ih => exact step open_feed (Int.le_trans below above) ih

theorem cut (leads : Leads floor before (first ++ second) after) :
    Leads floor before first (first.foldl scan before) ∧ Leads floor (first.foldl scan before) second after := by
  induction first generalizing before with
  | nil => exact ⟨done before, leads⟩
  | cons c first ih =>
    cases leads with
    | step open_feed above later =>
      obtain ⟨one, two⟩ := ih later
      exact ⟨step open_feed above one, two⟩

end Leads

/-- Brackets and quotes are balanced in a piece, whatever stands around it. -/
def Neutral (piece : List Char) : Prop := ∀ depth, Leads depth (outside depth) piece (outside depth)

/-- A piece of quoted text in which the quotation does not end. -/
def Interior (piece : List Char) : Prop := ∀ depth, Leads depth (inside depth) piece (inside depth)

/-- Characters that mean nothing to the count outside quoted text. -/
def isPlain (c : Char) : Bool := c != '"' && c != '\x7b' && c != '[' && c != '\x7d' && c != ']'

theorem scan_plain {c : Char} (plain : isPlain c = true) (depth : Int) : (outside depth).scan c = outside depth := by
  simp only [isPlain, Bool.and_eq_true, bne_iff_ne, ne_eq] at plain
  obtain ⟨⟨⟨⟨quote, brace⟩, bracket⟩, ending⟩, closing⟩ := plain
  simp [scan, outside, quote, brace, bracket, ending, closing]

theorem Neutral.nil : Neutral [] := fun depth => .done (outside depth)

theorem Neutral.append {first second : List Char} (one : Neutral first) (two : Neutral second) :
    Neutral (first ++ second) :=
  fun depth => (one depth).append (two depth)

theorem Neutral.plain {c : Char} (plain : isPlain c = true) : Neutral [c] := by
  intro depth
  have same := scan_plain plain depth
  exact .step (fun _ => rfl) (by rw [same]; exact Int.le_refl depth) (by rw [same]; exact .done _)

theorem Interior.nil : Interior [] := fun depth => .done (inside depth)

theorem Interior.append {first second : List Char} (one : Interior first) (two : Interior second) :
    Interior (first ++ second) :=
  fun depth => (one depth).append (two depth)

theorem Interior.plain {c : Char} (quote : c ≠ '"') (escape : c ≠ '\\') (feed : c ≠ '\n') : Interior [c] := by
  intro depth
  have same : (inside depth).scan c = inside depth := by simp [scan, inside, quote, escape]
  exact .step (absurd · feed) (by rw [same]; exact Int.le_refl depth) (by rw [same]; exact .done _)

/-- Whatever follows a backslash is passed over, quotes and backslashes too. -/
theorem Interior.escaped {c : Char} (feed : c ≠ '\n') : Interior ['\\', c] := by
  intro depth
  refine .step (absurd · (by decide)) (Int.le_refl depth) (.step (absurd · feed) (Int.le_refl depth) ?_)
  exact .done (inside depth)

/-! ### Passing over text -/

/-- The text in front of a rest is neutral. -/
def Passes (text rest : List Char) : Prop := ∃ piece, text = piece ++ rest ∧ Neutral piece

theorem Passes.refl (text : List Char) : Passes text text := ⟨[], rfl, .nil⟩

theorem Passes.trans {text middle rest : List Char} (one : Passes text middle) (two : Passes middle rest) :
    Passes text rest := by
  obtain ⟨first, rfl, neutral⟩ := one
  obtain ⟨second, rfl, also⟩ := two
  exact ⟨first ++ second, (List.append_assoc ..).symm, neutral.append also⟩

theorem Passes.plain {c : Char} (plain : isPlain c = true) (rest : List Char) : Passes (c :: rest) rest :=
  ⟨[c], rfl, .plain plain⟩

theorem Passes.dropWhile {drop : Char → Bool} (plain : ∀ c, drop c = true → isPlain c = true) (text : List Char) :
    Passes text (text.dropWhile drop) := by
  induction text with
  | nil => exact .refl []
  | cons c rest ih =>
    rw [List.dropWhile_cons]
    split
    next dropped => exact (Passes.plain (plain c dropped) rest).trans ih
    next => exact .refl _

/-- A quotation is neutral once its end has been passed. -/
theorem Passes.quoted {piece : List Char} (interior : Interior piece) (rest : List Char) :
    Passes ('"' :: (piece ++ '"' :: rest)) rest := by
  refine ⟨'"' :: (piece ++ ['"']), by simp, ?_⟩
  intro depth
  refine .step (fun _ => rfl) (Int.le_refl depth) ((interior depth).append ?_)
  exact .step (absurd · (by decide)) (Int.le_refl depth) (.done (outside depth))

end BuildWatch.Tool.Balance
