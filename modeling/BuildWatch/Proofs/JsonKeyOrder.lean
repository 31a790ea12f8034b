import BuildWatch.Frame.Decode

/-! What is read from an object whose keys stand in another order. Fields are looked for one after the other, and two of
them may change places as long as their keys are different, at any depth. -/

namespace BuildWatch.Json

mutual

/-- Values that differ at most in the order of their keys, at any depth. Equal keys keep their order. -/
inductive Reordered : Json → Json → Prop where
  | same (value : Json) : Reordered value value
  | list {items others : List Json} (alike : ReorderedItems items others) : Reordered (list items) (list others)
  | object {fields others : List (String × Json)} (alike : ReorderedFields fields others) :
    Reordered (object fields) (object others)

inductive ReorderedItems : List Json → List Json → Prop where
  | nil : ReorderedItems [] []
  | cons {item other : Json} {items others : List Json} (first : Reordered item other)
    (rest : ReorderedItems items others) : ReorderedItems (item :: items) (other :: others)

inductive ReorderedFields : List (String × Json) → List (String × Json) → Prop where
  | nil : ReorderedFields [] []
  | cons (key : String) {value other : Json} {fields others : List (String × Json)} (first : Reordered value other)
    (rest : ReorderedFields fields others) : ReorderedFields ((key, value) :: fields) ((key, other) :: others)
  | swap {key other : String} (different : key ≠ other) (value held : Json) (rest : List (String × Json)) :
    ReorderedFields ((key, value) :: (other, held) :: rest) ((other, held) :: (key, value) :: rest)
  | trans {fields between others : List (String × Json)} (first : ReorderedFields fields between)
    (second : ReorderedFields between others) : ReorderedFields fields others

end

theorem ReorderedFields.refl (fields : List (String × Json)) : ReorderedFields fields fields := by
  induction fields with
  | nil => exact .nil
  | cons field rest ih => exact .cons field.1 (.same field.2) ih

mutual

theorem Reordered.symm {value other : Json} (alike : Reordered value other) : Reordered other value := by
  match alike with
  | .same _ => exact .same _
  | .list alike => exact .list alike.symm
  | .object alike => exact .object alike.symm
termination_by structural alike

theorem ReorderedItems.symm {items others : List Json} (alike : ReorderedItems items others) :
    ReorderedItems others items := by
  match alike with
  | .nil => exact .nil
  | .cons first rest => exact .cons first.symm rest.symm
termination_by structural alike

theorem ReorderedFields.symm {fields others : List (String × Json)} (alike : ReorderedFields fields others) :
    ReorderedFields others fields := by
  match alike with
  | .nil => exact .nil
  | .cons key first rest => exact .cons key first.symm rest.symm
  | .swap different value held rest => exact .swap different.symm held value rest
  | .trans first second => exact .trans second.symm first.symm
termination_by structural alike

end

mutual

theorem Reordered.trans {value between other : Json} (first : Reordered value between)
    (second : Reordered between other) : Reordered value other := by
  match first, second with
  | .same _, second => exact second
  | .list first, .same _ => exact .list first
  | .list first, .list second => exact .list (first.trans second)
  | .object first, .same _ => exact .object first
  | .object first, .object second => exact .object (.trans first second)
termination_by structural first

theorem ReorderedItems.trans {items between others : List Json} (first : ReorderedItems items between)
    (second : ReorderedItems between others) : ReorderedItems items others := by
  match first, second with
  | .nil, .nil => exact .nil
  | .cons first rest, .cons second following => exact .cons (first.trans second) (rest.trans following)
termination_by structural first

end

theorem Reordered.fields {fields others : List (String × Json)}
    (alike : Reordered (Json.object fields) (Json.object others)) : ReorderedFields fields others := by
  cases alike with
  | same _ => exact .refl fields
  | object alike => exact alike

/-- Where no key is repeated, every order of the fields will do. -/
theorem ReorderedFields.of_perm {fields others : List (String × Json)} (perm : fields.Perm others)
    (single : (fields.map (·.1)).Nodup) : ReorderedFields fields others := by
  induction perm with
  | nil => exact .nil
  | cons field _ ih => exact .cons field.1 (.same field.2) (ih (List.nodup_cons.mp single).2)
  | swap one other rest =>
    have different : other.1 ≠ one.1 := fun same => (List.nodup_cons.mp single).1 (List.mem_cons.mpr (.inl same))
    exact .swap different other.2 one.2 rest
  | trans first _ ih₁ ih₂ => exact .trans (ih₁ single) (ih₂ ((first.map _).nodup_iff.mp single))

theorem ReorderedItems.length_eq {items others : List Json} (alike : ReorderedItems items others) :
    items.length = others.length := by
  match alike with
  | .nil => rfl
  | .cons _ rest => exact congrArg Nat.succ rest.length_eq
termination_by structural alike

/-! ### Settled values -/

theorem putField_swap {key other : String} (different : key ≠ other) (value held : Json) (fields : List (String × Json)) :
    putField key value (putField other held fields) = putField other held (putField key value fields) := by
  induction fields with
  | nil =>
    -- of two different keys exactly one goes before the other
    simp only [putField]
    grind
  | cons field rest ih =>
    simp only [putField]
    grind [putField]

mutual

theorem Reordered.settled_eq {value other : Json} (alike : Reordered value other) : value.settled = other.settled := by
  match alike with
  | .same _ => rfl
  | .list alike => simp only [settled, alike.settled_eq]
  | .object alike => simp only [settled, alike.settled_eq]
termination_by structural alike

theorem ReorderedItems.settled_eq {items others : List Json} (alike : ReorderedItems items others) :
    settledItems items = settledItems others := by
  match alike with
  | .nil => rfl
  | .cons first rest => simp only [settledItems, first.settled_eq, rest.settled_eq]
termination_by structural alike

theorem ReorderedFields.settled_eq {fields others : List (String × Json)} (alike : ReorderedFields fields others)
    (done : List (String × Json)) : settledFields fields done = settledFields others done := by
  match alike with
  | .nil => rfl
  | .cons key first rest => simp only [settledFields, first.settled_eq, rest.settled_eq]
  | .swap different value held rest => simp only [settledFields, putField_swap different.symm]
  | .trans first second => exact (first.settled_eq done).trans (second.settled_eq done)
termination_by structural alike

end

mutual

/-- No object inside repeats a key. -/
def Distinct : Json → Prop
  | list items => DistinctItems items
  | object fields => (fields.map (·.1)).Nodup ∧ DistinctFields fields
  | _ => True

def DistinctItems : List Json → Prop
  | [] => True
  | item :: rest => Distinct item ∧ DistinctItems rest

def DistinctFields : List (String × Json) → Prop
  | [] => True
  | (_, value) :: rest => Distinct value ∧ DistinctFields rest

end

theorem ReorderedFields.keys_perm {fields others : List (String × Json)} (alike : ReorderedFields fields others) :
    (fields.map (·.1)).Perm (others.map (·.1)) := by
  match alike with
  | .nil => exact .nil
  | .cons key _ rest => exact rest.keys_perm.cons key
  | .swap _ _ _ _ => exact .swap _ _ _
  | .trans first second => exact first.keys_perm.trans second.keys_perm
termination_by structural alike

theorem ReorderedFields.behind (front : List (String × Json)) {fields others : List (String × Json)}
    (alike : ReorderedFields fields others) : ReorderedFields (front ++ fields) (front ++ others) := by
  induction front with
  | nil => exact alike
  | cons field rest ih => exact .cons field.1 (.same field.2) ih

/-- A key that is not there yet finds its place by passing others. -/
theorem putField_reordered {key : String} (value : Json) {fields : List (String × Json)}
    (fresh : key ∉ fields.map (·.1)) : ReorderedFields ((key, value) :: fields) (putField key value fields) := by
  induction fields with
  | nil => exact .refl _
  | cons field rest ih =>
    obtain ⟨different, later⟩ := not_or.mp (mt List.mem_cons.mpr fresh)
    simp only [putField, if_neg different]
    split
    · exact .refl _
    · exact .trans (.swap different value field.2 rest) (.cons field.1 (.same field.2) (ih later))

mutual

/-- Where no key is repeated, settling a value only puts its keys in order. -/
theorem reordered_settled (value : Json) (distinct : Distinct value) : Reordered value value.settled := by
  match value with
  | list items =>
    simp only [settled]
    exact .list (reorderedItems_settled items distinct)
  | object fields =>
    obtain ⟨single, inside⟩ := distinct
    have sorted := reorderedFields_settled fields inside [] (by rwa [List.append_nil])
    rw [List.append_nil] at sorted
    simp only [settled]
    exact .object sorted
  | null | boolean _ | number _ | string _ => exact .same _
termination_by structural value

theorem reorderedItems_settled (items : List Json) (distinct : DistinctItems items) :
    ReorderedItems items (settledItems items) := by
  match items with
  | [] => exact .nil
  | item :: rest => exact .cons (reordered_settled item distinct.1) (reorderedItems_settled rest distinct.2)
termination_by structural items

theorem reorderedFields_settled (fields : List (String × Json)) (distinct : DistinctFields fields)
    (done : List (String × Json)) (single : (fields ++ done |>.map (·.1)).Nodup) :
    ReorderedFields (fields ++ done) (settledFields fields done) := by
  match fields with
  | [] => exact .refl done
  | (key, value) :: rest =>
    obtain ⟨absent, others⟩ := List.nodup_cons.mp single
    have fresh : key ∉ done.map (·.1) := fun held => absent (by simpa using .inr (by simpa using held))
    have placed := (putField_reordered value.settled fresh).behind rest
    -- the settled field goes behind the unsettled ones first, and then to its place among the settled
    have moved : ReorderedFields ((key, value) :: (rest ++ done)) (rest ++ (key, value.settled) :: done) :=
      .trans (.cons key (reordered_settled value distinct.1) (.refl _))
        (.of_perm List.perm_middle.symm (List.nodup_cons.mpr ⟨absent, others⟩))
    have still : ((rest ++ putField key value.settled done).map (·.1)).Nodup :=
      (moved.trans placed).keys_perm.nodup_iff.mp single
    exact moved.trans (placed.trans (reorderedFields_settled rest distinct.2 _ still))
termination_by structural fields

end

/-- Values without repeated keys differ in the order of keys at most just if they settle to the same value. -/
theorem reordered_iff_settled {value other : Json} (distinct : Distinct value) (distinct' : Distinct other) :
    Reordered value other ↔ value.settled = other.settled := by
  constructor
  · exact Reordered.settled_eq
  · intro same
    have first := reordered_settled value distinct
    rw [same] at first
    exact first.trans (reordered_settled other distinct').symm

/-! ### Fields -/

/-- Both fail, or both have the same value. -/
def Agree {ε δ α : Type} (one : Except ε α) (other : Except δ α) : Prop := one.toOption = other.toOption

namespace Agree
variable {ε δ α β : Type} {one : Except ε α} {other : Except δ α}

theorem symm (agree : Agree one other) : Agree other one := Eq.symm agree

theorem bind (agree : Agree one other) {next : α → Except ε β} {following : α → Except δ β}
    (further : ∀ value, Agree (next value) (following value)) : Agree (one >>= next) (other >>= following) := by
  cases one <;> cases other <;> cases agree
  · rfl
  · exact further _

theorem map (agree : Agree one other) (convert : α → β) : Agree (one.map convert) (other.map convert) := by
  cases one <;> cases other <;> cases agree <;> rfl

theorem ok {value : α} (agree : Agree one (.ok value : Except δ α)) : one = .ok value := by
  cases one <;> cases agree
  rfl

theorem error {reason : δ} (agree : Agree one (.error reason : Except δ α)) : ∃ fault, one = .error fault := by
  cases one with
  | error fault => exact ⟨fault, rfl⟩
  | ok _ => cases agree

end Agree

variable {σ ε α β : Type}

/-- A field that leaves every state as it is commutes with every other field. -/
theorem idle_commutes {step : σ → String × Json → Except ε σ} {part : String × Json}
    (idle : ∀ state, step state part = .ok state) (other : String × Json) (state : σ) :
    Agree (step state part >>= fun state => step state other) (step state other >>= fun state => step state part) := by
  have last : (step state other >>= fun state => step state part) = step state other := by
    rw [funext idle]
    exact bind_pure (step state other)
  rw [idle, last]
  rfl

/-- A step over fields that does not see which of two different keys comes first, nor how keys are ordered inside values. -/
structure Orderless (step : σ → String × Json → Except ε σ) : Prop where
  alike : ∀ state key {value other}, Reordered value other → Agree (step state (key, value)) (step state (key, other))
  commutes : ∀ state {key other} value held, key ≠ other →
    Agree (step state (key, value) >>= fun state => step state (other, held))
      (step state (other, held) >>= fun state => step state (key, value))

theorem Orderless.foldlM_agree {step : σ → String × Json → Except ε σ} (orderless : Orderless step)
    {fields others : List (String × Json)} (alike : ReorderedFields fields others) (state : σ) :
    Agree (fields.foldlM step state) (others.foldlM step state) := by
  -- by the exchanges that lead from one order to the other; what comes before them may leave any state
  match alike with
  | .nil => rfl
  | .cons key first rest =>
    simp only [List.foldlM_cons]
    exact (orderless.alike state key first).bind fun state => orderless.foldlM_agree rest state
  | .swap different value held rest =>
    simp only [List.foldlM_cons, ← bind_assoc]
    exact (orderless.commutes state value held different).bind fun _ => rfl
  | .trans first second => exact (orderless.foldlM_agree first state).trans (orderless.foldlM_agree second state)
termination_by structural alike

/-- Fields that leave every state as it is may as well be missing. -/
theorem foldlM_filter {step : σ → String × Json → Except ε σ} (kept : String × Json → Bool)
    (idle : ∀ state field, kept field = false → step state field = .ok state) (fields : List (String × Json)) (state : σ) :
    (fields.filter kept).foldlM step state = fields.foldlM step state := by
  induction fields generalizing state with
  | nil => rfl
  | cons field rest ih =>
    cases keeps : kept field with
    | true => simp only [List.filter_cons_of_pos keeps, List.foldlM_cons, ih]
    | false =>
      rw [List.filter_cons_of_neg (Bool.eq_false_iff.mp keeps), ih, List.foldlM_cons, idle state field keeps]
      rfl

/-- A way of reading a value to which the order of the keys inside does not matter. -/
def IgnoresOrder (field : Field α) : Prop := ∀ {value other : Json}, Reordered value other → Agree (field value) (field other)

/-- Looking for a field, one step at a time. -/
def slotStep (name : String) (field : Field α) (slot : Slot α) (part : String × Json) : Except Reason (Slot α) :=
  if part.1 = name then slot.fill name field part.2 else .ok slot

theorem readSlot_steps (name : String) (field : Field α) (slot : Slot α) (fields : List (String × Json)) :
    readSlot name field slot fields = fields.foldlM (slotStep name field) slot := by
  induction fields generalizing slot with
  | nil => rfl
  | cons part rest ih =>
    rw [readSlot, List.foldlM_cons, slotStep]
    split
    · exact bind_congr fun slot => ih slot
    · exact ih slot

def slotsStep (name₁ name₂ : String) (field₁ : Field α) (field₂ : Field β) (slots : Slot α × Slot β)
    (part : String × Json) : Except Reason (Slot α × Slot β) :=
  if part.1 = name₁ then (slots.1.fill name₁ field₁ part.2).map (·, slots.2)
  else if part.1 = name₂ then (slots.2.fill name₂ field₂ part.2).map (slots.1, ·)
  else .ok slots

theorem readSlots_steps (name₁ name₂ : String) (field₁ : Field α) (field₂ : Field β) (slot₁ : Slot α) (slot₂ : Slot β)
    (fields : List (String × Json)) :
    readSlots name₁ name₂ field₁ field₂ slot₁ slot₂ fields =
      fields.foldlM (slotsStep name₁ name₂ field₁ field₂) (slot₁, slot₂) := by
  induction fields generalizing slot₁ slot₂ with
  | nil => rfl
  | cons part rest ih =>
    rw [readSlots, List.foldlM_cons, slotsStep]
    split
    · cases slot₁.fill name₁ field₁ part.2 with
      | error _ => rfl
      | ok slot => exact ih slot slot₂
    · split
      · cases slot₂.fill name₂ field₂ part.2 with
        | error _ => rfl
        | ok slot => exact ih slot₁ slot
      · exact ih slot₁ slot₂

section
variable {name name₁ name₂ : String} {field : Field α} {field₁ : Field α} {field₂ : Field β}

theorem IgnoresOrder.fill (blind : IgnoresOrder field) {value other : Json} (alike : Reordered value other)
    (slot : Slot α) : Agree (slot.fill name field value) (slot.fill name field other) := by
  cases slot with
  | missing => exact (blind alike).map Slot.given
  | given _ => rfl

theorem IgnoresOrder.slotStep (blind : IgnoresOrder field) : Orderless (slotStep name field) where
  alike := by
    intro slot key value other alike
    simp only [Json.slotStep]
    split
    · exact blind.fill alike slot
    · rfl
  commutes := by
    intro slot key other value held different
    by_cases sought : key = name
    · have idle : ∀ slot, Json.slotStep name field slot (other, held) = .ok slot :=
        fun _ => if_neg (sought ▸ different.symm)
      exact (idle_commutes idle (key, value) slot).symm
    · exact idle_commutes (fun _ => if_neg sought) (other, held) slot

theorem both_commute (different : name₁ ≠ name₂) (slots : Slot α × Slot β) (value₁ value₂ : Json) :
    Agree (slotsStep name₁ name₂ field₁ field₂ slots (name₁, value₁) >>=
        fun slots => slotsStep name₁ name₂ field₁ field₂ slots (name₂, value₂))
      (slotsStep name₁ name₂ field₁ field₂ slots (name₂, value₂) >>=
        fun slots => slotsStep name₁ name₂ field₁ field₂ slots (name₁, value₁)) := by
  simp only [slotsStep, if_true, if_neg different.symm]
  cases read₁ : slots.1.fill name₁ field₁ value₁ <;> cases read₂ : slots.2.fill name₂ field₂ value₂ <;>
    simp only [Agree, bind, Except.bind, Except.map, Except.toOption, read₁, read₂]

theorem IgnoresOrder.slotsStep (blind₁ : IgnoresOrder field₁) (blind₂ : IgnoresOrder field₂) :
    Orderless (slotsStep name₁ name₂ field₁ field₂) where
  alike := by
    intro slots key value other alike
    simp only [Json.slotsStep]
    split
    · exact (blind₁.fill alike slots.1).map _
    · split
      · exact (blind₂.fill alike slots.2).map _
      · rfl
  commutes := by
    intro slots key other value held different
    have idle : ∀ {key : String}, key ≠ name₁ → key ≠ name₂ → ∀ (value : Json) slots,
        Json.slotsStep name₁ name₂ field₁ field₂ slots (key, value) = .ok slots :=
      fun none₁ none₂ _ _ => (if_neg none₁).trans (if_neg none₂)
    by_cases first : key = name₁
    · subst first
      by_cases second : other = name₂
      · subst second
        exact both_commute different slots value held
      · exact (idle_commutes (idle different.symm second held) (key, value) slots).symm
    · by_cases second : key = name₂
      · subst second
        by_cases behind : other = name₁
        · subst behind
          exact (both_commute different.symm slots held value).symm
        · exact (idle_commutes (idle behind different.symm held) (key, value) slots).symm
      · exact idle_commutes (idle first second value) (other, held) slots

theorem readSlot_agree (blind : IgnoresOrder field) {fields others : List (String × Json)}
    (alike : ReorderedFields fields others) (slot : Slot α) :
    Agree (readSlot name field slot fields) (readSlot name field slot others) := by
  simp only [readSlot_steps]
  exact blind.slotStep.foldlM_agree alike slot

theorem readSlots_agree (blind₁ : IgnoresOrder field₁) (blind₂ : IgnoresOrder field₂)
    {fields others : List (String × Json)} (alike : ReorderedFields fields others) (slot₁ : Slot α) (slot₂ : Slot β) :
    Agree (readSlots name₁ name₂ field₁ field₂ slot₁ slot₂ fields)
      (readSlots name₁ name₂ field₁ field₂ slot₁ slot₂ others) := by
  simp only [readSlots_steps]
  exact (blind₁.slotsStep blind₂).foldlM_agree alike (slot₁, slot₂)

/-- Fields of other names are passed over. -/
theorem readSlot_filter {kept : String × Json → Bool} (keeps : ∀ part, part.1 = name → kept part = true)
    (slot : Slot α) (fields : List (String × Json)) :
    readSlot name field slot (fields.filter kept) = readSlot name field slot fields := by
  simp only [readSlot_steps]
  refine foldlM_filter kept (fun slot part dropped => if_neg fun sought => ?_) fields slot
  rw [keeps part sought] at dropped
  cases dropped

theorem readSlots_filter {kept : String × Json → Bool} (keeps₁ : ∀ part, part.1 = name₁ → kept part = true)
    (keeps₂ : ∀ part, part.1 = name₂ → kept part = true) (slot₁ : Slot α) (slot₂ : Slot β)
    (fields : List (String × Json)) :
    readSlots name₁ name₂ field₁ field₂ slot₁ slot₂ (fields.filter kept) =
      readSlots name₁ name₂ field₁ field₂ slot₁ slot₂ fields := by
  simp only [readSlots_steps]
  refine foldlM_filter kept (fun slots part dropped => ?_) fields (slot₁, slot₂)
  have first : part.1 ≠ name₁ := fun sought => by simp [keeps₁ part sought] at dropped
  have second : part.1 ≠ name₂ := fun sought => by simp [keeps₂ part sought] at dropped
  exact (if_neg first).trans (if_neg second)

end

/-! ### Values -/

theorem ignoresOrder_of_plain {field : Field α} (lists : ∀ items, (field (list items)).toOption = none)
    (objects : ∀ fields, (field (object fields)).toOption = none) : IgnoresOrder field := by
  intro value other alike
  cases alike with
  | same _ => rfl
  | list _ => exact (lists _).trans (lists _).symm
  | object _ => exact (objects _).trans (objects _).symm

theorem asString_ignoresOrder : IgnoresOrder asString := ignoresOrder_of_plain (fun _ => rfl) fun _ => rfl

theorem asPath_ignoresOrder : IgnoresOrder asPath := ignoresOrder_of_plain (fun _ => rfl) fun _ => rfl

theorem asBoolean_ignoresOrder : IgnoresOrder asBoolean := ignoresOrder_of_plain (fun _ => rfl) fun _ => rfl

theorem asByte_ignoresOrder : IgnoresOrder asByte := ignoresOrder_of_plain (fun _ => rfl) fun _ => rfl

theorem asAny_ignoresOrder : IgnoresOrder asAny := fun alike =>
  congrArg (fun value => (Except.ok value : Except Reason Json).toOption) alike.settled_eq

theorem mapM_agree {field : Field α} (blind : IgnoresOrder field) {items others : List Json}
    (alike : ReorderedItems items others) : Agree (items.mapM field) (others.mapM field) := by
  match alike with
  | .nil => rfl
  | .cons first rest =>
    simp only [List.mapM_cons]
    exact (blind first).bind fun value => (mapM_agree blind rest).bind fun _ => rfl
termination_by structural alike

theorem asStrings_ignoresOrder : IgnoresOrder asStrings := by
  intro value other alike
  cases alike with
  | same _ => rfl
  | list alike => exact mapM_agree asString_ignoresOrder alike
  | object _ => rfl

theorem noFurther_agree (count : Nat) {items others : List Json} (alike : ReorderedItems items others) (value : α) :
    Agree (noFurther count items value) (noFurther count others value) := by
  simp only [noFurther, alike.length_eq]
  split <;> rfl

theorem asOutcome_ignoresOrder : IgnoresOrder asOutcome := by
  intro value other alike
  cases alike with
  | same _ => rfl
  | object alike =>
    exact (readSlots_agree asStrings_ignoresOrder asStrings_ignoresOrder alike _ _).bind fun _ => rfl
  | list alike =>
    match alike with
    | .nil => rfl
    | .cons errors .nil => exact (asStrings_ignoresOrder errors).bind fun _ => rfl
    | .cons errors (.cons warnings rest) =>
      refine (asStrings_ignoresOrder errors).bind fun _ => (asStrings_ignoresOrder warnings).bind fun _ => ?_
      exact noFurther_agree 2 (.cons errors (.cons warnings rest)) _

/-- An object without the fields of other names. -/
def restricted (names : List String) : Json → Json
  | object fields => object (fields.filter fun field => names.contains field.1)
  | value => value

theorem asOutcome_restricted (value : Json) : asOutcome (value.restricted ["errors", "warnings"]) = asOutcome value := by
  cases value with
  | object fields =>
    simp only [restricted, asOutcome]
    rw [readSlots_filter (fun part same => by rw [same]; rfl) fun part same => by rw [same]; rfl]
  | _ => rfl

end BuildWatch.Json
