import BuildWatch.Proofs.FrameDirections
import BuildWatch.Proofs.JsonKeyOrder

/-! What a frame says that is an object. Its message is found by the names of its fields, so neither their order nor
fields of other names make a difference. -/

namespace BuildWatch

namespace Json

/-! ### Kinds among fields -/

def asKind (direction : Direction) : Field String
  | string kind => if direction.kinds.contains kind then .ok kind else .error (.unknownTag kind direction.kinds)
  | value => .error (.wrongKind value "variant identifier")

theorem asKind_ok {direction : Direction} {value : Json} {kind : String} :
    asKind direction value = .ok kind ↔ value = string kind ∧ kind ∈ direction.kinds := by
  constructor
  · intro read
    cases value with
    | string text =>
      simp only [asKind] at read
      split at read
      next known =>
        cases read
        exact ⟨rfl, List.contains_iff_mem.mp known⟩
      next => cases read
    | _ => cases read
  · rintro ⟨rfl, known⟩
    exact if_pos (List.contains_iff_mem.mpr known)

theorem asKind_ignoresOrder (direction : Direction) : IgnoresOrder (asKind direction) :=
  ignoresOrder_of_plain (fun _ => rfl) fun _ => rfl

theorem readKind_value {direction : Direction} {text rest : List Char} {kind : String} (depth : Nat) :
    readKind direction text = .ok (kind, rest) ↔
      readValue depth text = .ok (string kind, rest) ∧ kind ∈ direction.kinds := by
  rw [readKind_ok, readValue_string]
  constructor
  · rintro ⟨behind, ahead, spelled, known⟩
    exact ⟨⟨behind, ahead, spelled⟩, known⟩
  · rintro ⟨⟨behind, ahead, spelled⟩, known⟩
    exact ⟨behind, ahead, spelled, known⟩

def Slot.value? {α : Type} : Slot α → Option α
  | missing => none
  | given value => some value

/-- The fields of a message without its kind. -/
def untagged (fields : List (String × Json)) : List (String × Json) := fields.filter (·.1 != tagField)

section
variable {direction : Direction} {key : String} {text behind rest : List Char} {value : Json}
  (colon : readColon text = .ok ((), behind)) (read : readValue (maxDepth - 1) behind = .ok (value, rest))
include colon read

/-- A field whose value can be read is taken for what it says, the kind for a kind of its direction. -/
theorem messageField_taken {slot after : Slot String}
    (stepped : slotStep tagField (asKind direction) slot (key, value) = .ok after) (kept : List (String × Json)) :
    messageField direction (slot.value?, kept) key text =
      .ok ((after.value?, (untagged [(key, value)]).reverse ++ kept), rest) := by
  by_cases tag : key = tagField
  · subst tag
    cases slot with
    | given kind => cases stepped
    | missing =>
      simp only [slotStep, if_true, Slot.fill] at stepped
      cases meant : asKind direction value with
      | error reason =>
        rw [meant] at stepped
        cases stepped
      | ok kind =>
        rw [meant] at stepped
        cases stepped
        obtain ⟨rfl, known⟩ := asKind_ok.mp meant
        have found := (readKind_value (maxDepth - 1)).mpr ⟨read, known⟩
        simp only [messageField, if_true, Slot.value?, Option.isSome_none, Bool.false_eq_true, if_false, bind, Except.bind,
          colon, found]
        rfl
  · have same : after = slot := by
      rw [slotStep, if_neg tag] at stepped
      exact (Except.ok.inj stepped).symm
    subst same
    simp only [messageField_other tag, freeField, colon, read]
    simp [untagged, tag, Except.map]

theorem messageField_refused {slot : Slot String} {reason : Reason}
    (refused : slotStep tagField (asKind direction) slot (key, value) = .error reason) (kept : List (String × Json)) :
    ∃ fault, messageField direction (slot.value?, kept) key text = .error fault := by
  cases taken : messageField direction (slot.value?, kept) key text with
  | error fault => exact ⟨fault, rfl⟩
  | ok found =>
    by_cases tag : key = tagField
    · subst tag
      obtain ⟨behind', kind, free, colon', spelled, -⟩ := messageField_tag taken
      cases colon.symm.trans colon'
      obtain ⟨valued, known⟩ := (readKind_value (maxDepth - 1)).mp spelled
      cases read.symm.trans valued
      cases slot with
      | given _ => cases free
      | missing =>
        simp only [slotStep, if_true, Slot.fill, asKind_ok.mpr ⟨rfl, known⟩] at refused
        cases refused
    · rw [slotStep, if_neg tag] at refused
      cases refused

end

/-- Where the fields of an object can be read, those of a message are read as well or refused for what they say. -/
theorem readFields_message {fuel : Nat} {begun : Bool} {before all : List (String × Json)} {text rest : List Char}
    (read : readFields (freeField (readValue (maxDepth - 1))) fuel begun before text = .ok (all, rest)) :
    ∃ fields, all = fields.reverse ++ before ∧ ∀ (direction : Direction) (slot : Slot String) (kept : List (String × Json)),
      Agree (readFields (messageField direction) fuel begun (slot.value?, kept) text)
        ((readSlot tagField (asKind direction) slot fields).map fun slot =>
          ((slot.value?, (untagged fields).reverse ++ kept), rest)) := by
  induction fuel generalizing begun before text with
  | zero => cases read
  | succ fuel ih =>
    rcases readFields_ok read with ⟨ended, same⟩ | ⟨ahead, key, behind, state, rest', next, named, found, later⟩
    · cases same
      refine ⟨[], rfl, fun direction slot kept => ?_⟩
      simp only [readFields, ended]
      rfl
    · obtain ⟨inside, value, colon, valued, rfl⟩ := freeField_ok found
      obtain ⟨fields, rfl, further⟩ := ih later
      refine ⟨(key, value) :: fields, by simp, fun direction slot kept => ?_⟩
      rw [readFields_cons next named, readSlot_steps, List.foldlM_cons]
      cases stepped : slotStep tagField (asKind direction) slot (key, value) with
      | error reason =>
        obtain ⟨fault, refused⟩ := messageField_refused colon valued stepped kept
        rw [refused]
        rfl
      | ok after =>
        have parts : untagged ((key, value) :: fields) = untagged [(key, value)] ++ untagged fields :=
          List.filter_append [(key, value)] fields
        rw [messageField_taken colon valued stepped kept, parts, List.reverse_append, List.append_assoc]
        have rest_agrees := further direction after ((untagged [(key, value)]).reverse ++ kept)
        rw [readSlot_steps] at rest_agrees
        exact rest_agrees

/-! ### Frames -/

/-- A line that holds an object with these fields, space behind it aside. -/
def Holds (line : String) (fields : List (String × Json)) : Prop :=
  decodeText (readValue maxDepth) (String.ofList (Text.trimEnd line.toList)) = .ok (object fields)

theorem Holds.read {line : String} {fields : List (String × Json)} (holds : Holds line fields) :
    ∃ inside rest, skipSpace (Text.trimEnd line.toList) = '\x7b' :: inside ∧
      readFields (freeField (readValue (maxDepth - 1))) (inside.length + 1) true [] inside = .ok (fields.reverse, rest) ∧
      skipSpace (close '\x7d' rest) = [] := by
  simp only [Holds, decodeText, String.toList_ofList, readAll] at holds
  split at holds
  next value whole =>
    cases holds
    split at whole
    next => cases whole
    next rest' read =>
      split at whole
      next ended =>
        cases whole
        rcases readValue_ok read with ⟨_, shape⟩ | ⟨lower, inside, gathered, depth, ahead, content, shape⟩ | plain
        · cases shape
        · cases depth
          cases shape
          obtain ⟨rest, found, rfl⟩ := closing_ok content
          exact ⟨inside, rest, ahead, by rw [List.reverse_reverse]; exact found, ended⟩
        · rcases readPlain_ok plain with ⟨_, _, _, _, shape⟩ | ⟨-, other⟩
          · cases shape
          · exact (other fields rfl).elim
      next => cases whole
  next => cases holds

theorem closing_agree {α : Type} (bracket : Char) (content : Reader α) (text : List Char) :
    Agree (closing bracket content text) ((content text).map fun (value, rest) => (value, close bracket rest)) := by
  simp only [closing]
  split
  next read =>
    rw [read]
    rfl
  next refused =>
    rw [refused]
    rfl
  next refused =>
    rw [refused]
    rfl

theorem holds_compact {fields : List (String × Json)} (fits : Fits maxDepth (object fields)) :
    Holds (object fields).compact fields := by
  have read := readValue_chars fits [] trivial
  rw [List.append_nil] at read
  simp only [Holds, compact, String.toList_ofList, trimEnd_object, decodeText, readAll, read]
  rfl

def kindOf (direction : Direction) (fields : List (String × Json)) : Except Reason String := do
  (← readSlot tagField (asKind direction) .missing fields).required tagField

/-- What the fields of an object say as a message. -/
def meaning {α : Type} (direction : Direction) (ofMessage : String → Body → Except Reason α)
    (fields : List (String × Json)) : Except Reason α := do
  ofMessage (← kindOf direction fields) (.fields (untagged fields))

theorem readMessage_fields {text inside rest : List Char} {fields : List (String × Json)}
    (ahead : skipSpace text = '\x7b' :: inside)
    (read : readFields (freeField (readValue (maxDepth - 1))) (inside.length + 1) true [] inside = .ok (fields.reverse, rest))
    (direction : Direction) :
    Agree (readMessage direction text)
      ((kindOf direction fields).map fun kind => ((kind, .fields (untagged fields)), close '\x7d' rest)) := by
  obtain ⟨parts, same, agrees⟩ := readFields_message read
  obtain rfl : parts = fields := by simpa using same.symm
  have agree := agrees direction .missing []
  have message : readMessage direction text = messageFields direction inside := by simp only [readMessage, ahead]
  rw [message, kindOf, messageFields]
  refine (closing_agree _ _ _).trans ?_
  cases found : readSlot tagField (asKind direction) .missing parts with
  | error reason =>
    rw [found] at agree
    obtain ⟨fault, refused⟩ := agree.error
    simp only [Slot.value?] at refused
    simp only [bind, Except.bind, refused]
    rfl
  | ok slot =>
    rw [found] at agree
    have taken := agree.ok
    simp only [Slot.value?, List.append_nil] at taken
    simp only [bind, Except.bind, taken]
    cases slot with
    | missing => rfl
    | given kind =>
      simp only [pure, Except.pure, List.reverse_reverse]
      rfl

/-- A frame that is an object is decoded as its fields say. -/
theorem decodeFrame_meaning {α : Type} (direction : Direction) (ofMessage : String → Body → Except Reason α)
    {line : String} {fields : List (String × Json)} (holds : Holds line fields) :
    Agree (decodeFrame direction ofMessage line) (meaning direction ofMessage fields) := by
  obtain ⟨inside, rest, ahead, read, ended⟩ := holds.read
  have agree := readMessage_fields ahead read direction
  rw [meaning]
  simp only [decodeFrame, decodeText, String.toList_ofList, readAll, readFrame]
  cases found : kindOf direction fields with
  | error reason =>
    rw [found] at agree
    obtain ⟨fault, refused⟩ := agree.error
    simp only [bind, Except.bind, refused]
    rfl
  | ok kind =>
    rw [found] at agree
    have taken := agree.ok
    simp only [bind, Except.bind, taken]
    cases ofMessage kind (.fields (untagged fields)) with
    | error reason => rfl
    | ok message =>
      simp only [pure, Except.pure, ended]
      rfl

/-! ### Fields that count -/

/-- The fields that a kind of message declares. -/
def declared : String → List String
  | "start" => ["cwd", "configFile"]
  | "log" | "log-error" => ["items"]
  | "compile-progress" => ["percent", "done"]
  | "result-error" => ["error"]
  | "result-stats" => ["stats"]
  | _ => []

/-- The kind that an object gives itself, if any. -/
def tagOf (fields : List (String × Json)) : String := ((fields.find? (·.1 == tagField)).bind (·.2.string?)).getD ""

/-- An outcome declares fields of its own. -/
def declaredPart (field : String × Json) : String × Json :=
  (field.1, if field.1 = "stats" then field.2.restricted ["errors", "warnings"] else field.2)

/-- The kind of an object and its fields of these names. -/
def selected (names : List String) (fields : List (String × Json)) : List (String × Json) :=
  (fields.filter fun field => field.1 == tagField || names.contains field.1).map declaredPart

/-- The fields of an object that its kind declares, with the kind itself. -/
def known (fields : List (String × Json)) : List (String × Json) := selected (declared (tagOf fields)) fields

section
variable {α β : Type} {name name₁ name₂ : String} {field : Field α} {field₁ : Field α} {field₂ : Field β}
  {names : List String}

theorem kept_of_listed (listed : name = tagField ∨ name ∈ names) (part : String × Json) (sought : part.1 = name) :
    (part.1 == tagField || names.contains part.1) = true := by
  rw [sought]
  rcases listed with rfl | member
  · simp
  · simp [member]

theorem fill_declared (same : ∀ value, field (declaredPart (name, value)).2 = field value) (slot : Slot α)
    (part : String × Json) (sought : part.1 = name) :
    slot.fill name field (declaredPart part).2 = slot.fill name field part.2 := by
  obtain ⟨key, value⟩ := part
  subst sought
  cases slot with
  | missing => exact congrArg (Except.map Slot.given) (same value)
  | given _ => rfl

theorem readSlot_selected (listed : name = tagField ∨ name ∈ names)
    (same : ∀ value, field (declaredPart (name, value)).2 = field value) (slot : Slot α) (fields : List (String × Json)) :
    readSlot name field slot (selected names fields) = readSlot name field slot fields := by
  rw [← readSlot_filter (kept_of_listed listed) slot fields, readSlot_steps, readSlot_steps, selected, List.foldlM_map]
  congr 1
  funext slot part
  by_cases sought : part.1 = name
  · exact (if_pos sought).trans ((fill_declared same slot part sought).trans (if_pos sought).symm)
  · exact (if_neg sought).trans (if_neg sought).symm

theorem readSlots_selected (listed₁ : name₁ ∈ names) (listed₂ : name₂ ∈ names)
    (same₁ : ∀ value, field₁ (declaredPart (name₁, value)).2 = field₁ value)
    (same₂ : ∀ value, field₂ (declaredPart (name₂, value)).2 = field₂ value) (slot₁ : Slot α) (slot₂ : Slot β)
    (fields : List (String × Json)) :
    readSlots name₁ name₂ field₁ field₂ slot₁ slot₂ (selected names fields) =
      readSlots name₁ name₂ field₁ field₂ slot₁ slot₂ fields := by
  rw [← readSlots_filter (kept_of_listed (.inr listed₁)) (kept_of_listed (.inr listed₂)) slot₁ slot₂ fields,
    readSlots_steps, readSlots_steps, selected, List.foldlM_map]
  congr 1
  funext slots part
  by_cases first : part.1 = name₁
  · have filled := congrArg (Except.map (·, slots.2)) (fill_declared same₁ slots.1 part first)
    exact (if_pos first).trans (filled.trans (if_pos first).symm)
  refine (if_neg first).trans (Eq.trans ?_ (if_neg first).symm)
  by_cases second : part.1 = name₂
  · have filled := congrArg (Except.map (slots.1, ·)) (fill_declared same₂ slots.2 part second)
    exact (if_pos second).trans (filled.trans (if_pos second).symm)
  · exact (if_neg second).trans (if_neg second).symm

variable {fields others : List (String × Json)}

theorem oneField_agree (listed : name ∈ names) (free : name ≠ tagField)
    (same : ∀ value, field (declaredPart (name, value)).2 = field value) (blind : IgnoresOrder field)
    (alike : ReorderedFields (selected names fields) (selected names others)) (what : String) :
    Agree (oneField what name field (.fields (untagged fields))) (oneField what name field (.fields (untagged others))) := by
  have keeps : ∀ part : String × Json, part.1 = name → (part.1 != tagField) = true :=
    fun part sought => bne_iff_ne.mpr (sought ▸ free)
  have agree : Agree (readSlot name field .missing (selected names fields))
      (readSlot name field .missing (selected names others)) := readSlot_agree blind alike .missing
  simp only [readSlot_selected (.inr listed) same] at agree
  simp only [oneField, untagged, readSlot_filter keeps]
  exact agree.bind fun _ => rfl

theorem twoFields_agree (listed₁ : name₁ ∈ names) (listed₂ : name₂ ∈ names) (free₁ : name₁ ≠ tagField)
    (free₂ : name₂ ≠ tagField) (same₁ : ∀ value, field₁ (declaredPart (name₁, value)).2 = field₁ value)
    (same₂ : ∀ value, field₂ (declaredPart (name₂, value)).2 = field₂ value) (blind₁ : IgnoresOrder field₁)
    (blind₂ : IgnoresOrder field₂) (alike : ReorderedFields (selected names fields) (selected names others))
    (what : String) :
    Agree (twoFields what name₁ name₂ field₁ field₂ (.fields (untagged fields)))
      (twoFields what name₁ name₂ field₁ field₂ (.fields (untagged others))) := by
  have keeps₁ : ∀ part : String × Json, part.1 = name₁ → (part.1 != tagField) = true :=
    fun part sought => bne_iff_ne.mpr (sought ▸ free₁)
  have keeps₂ : ∀ part : String × Json, part.1 = name₂ → (part.1 != tagField) = true :=
    fun part sought => bne_iff_ne.mpr (sought ▸ free₂)
  have agree : Agree (readSlots name₁ name₂ field₁ field₂ .missing .missing (selected names fields))
      (readSlots name₁ name₂ field₁ field₂ .missing .missing (selected names others)) :=
    readSlots_agree blind₁ blind₂ alike .missing .missing
  simp only [readSlots_selected listed₁ listed₂ same₁ same₂] at agree
  simp only [twoFields, untagged, readSlots_filter keeps₁ keeps₂]
  exact agree.bind fun _ => rfl

end

theorem readSlot_given {α : Type} {name : String} {field : Field α} {value : α} {fields : List (String × Json)}
    {after : Slot α} (read : readSlot name field (.given value) fields = .ok after) : after = .given value := by
  induction fields with
  | nil => exact (Except.ok.inj read).symm
  | cons part rest ih =>
    rw [readSlot] at read
    split at read
    next => cases read
    next => exact ih read

theorem tagOf_kind {direction : Direction} {kind : String} {fields : List (String × Json)}
    (found : kindOf direction fields = .ok kind) : tagOf fields = kind ∧ kind ∈ direction.kinds := by
  induction fields with
  | nil => cases found
  | cons part rest ih =>
    obtain ⟨key, value⟩ := part
    simp only [kindOf, readSlot] at found
    by_cases tag : key = tagField
    · subst tag
      simp only [if_true, Slot.fill] at found
      cases meant : asKind direction value with
      | error reason =>
        rw [meant] at found
        cases found
      | ok told =>
        obtain ⟨rfl, known⟩ := asKind_ok.mp meant
        simp only [meant, Except.map, bind, Except.bind] at found
        split at found
        next => cases found
        next after read =>
          cases readSlot_given read
          cases found
          exact ⟨rfl, known⟩
    · rw [if_neg tag] at found
      have passed : tagOf ((key, value) :: rest) = tagOf rest := by
        have other : (key == tagField) = false := beq_eq_false_iff_ne.mpr tag
        simp only [tagOf, List.find?_cons, other]
      rw [passed]
      exact ih found

theorem kindOf_known (direction : Direction) (fields : List (String × Json)) :
    kindOf direction (known fields) = kindOf direction fields := by
  have same : ∀ value, asKind direction (declaredPart (tagField, value)).2 = asKind direction value := fun _ => rfl
  simp only [kindOf, known, readSlot_selected (.inl rfl) same]

section
variable {α : Type} {direction : Direction} {ofMessage : String → Body → Except Reason α}
  (blind : ∀ kind ∈ direction.kinds, ∀ fields others,
    ReorderedFields (selected (declared kind) fields) (selected (declared kind) others) →
      Agree (ofMessage kind (.fields (untagged fields))) (ofMessage kind (.fields (untagged others))))
include blind

theorem meaning_agree {fields others : List (String × Json)} (alike : ReorderedFields (known fields) (known others)) :
    Agree (meaning direction ofMessage fields) (meaning direction ofMessage others) := by
  have kinds : Agree (kindOf direction fields) (kindOf direction others) := by
    rw [← kindOf_known direction fields, ← kindOf_known direction others]
    exact (readSlot_agree (asKind_ignoresOrder direction) alike .missing).bind fun _ => rfl
  rw [meaning, meaning]
  cases found : kindOf direction others with
  | error reason =>
    rw [found] at kinds
    obtain ⟨reason', missed⟩ := kinds.error
    rw [missed]
    rfl
  | ok kind =>
    rw [found] at kinds
    obtain ⟨tag, listed⟩ := tagOf_kind kinds.ok
    obtain ⟨tag', -⟩ := tagOf_kind found
    rw [known, known, tag, tag'] at alike
    rw [kinds.ok]
    exact blind kind listed fields others alike

theorem decodeFrame_agree {line other : String} {fields others : List (String × Json)} (holds : Holds line fields)
    (holds' : Holds other others) (alike : ReorderedFields (known fields) (known others)) :
    Agree (decodeFrame direction ofMessage line) (decodeFrame direction ofMessage other) := by
  have first := decodeFrame_meaning direction ofMessage holds
  have second := decodeFrame_meaning direction ofMessage holds'
  exact first.trans ((meaning_agree blind alike).trans second.symm)

end

/-- The fields that count are the same but for the order of keys: either different keys have changed places, or no key is
repeated and both settle to the same object. -/
def Alike (fields others : List (String × Json)) : Prop :=
  ReorderedFields (known fields) (known others) ∨
  Distinct (object (known fields)) ∧ Distinct (object (known others)) ∧
    (object (known fields)).settled = (object (known others)).settled

theorem Alike.reordered {fields others : List (String × Json)} (alike : Alike fields others) :
    ReorderedFields (known fields) (known others) := by
  rcases alike with reordered | ⟨distinct, distinct', same⟩
  · exact reordered
  · exact ((reordered_iff_settled distinct distinct').mpr same).fields

end Json

open Json

theorem Request.ofMessage_agree {kind : String} {fields others : List (String × Json)}
    (alike : ReorderedFields (selected (declared kind) fields) (selected (declared kind) others)) :
    Agree (Request.ofMessage kind (.fields (untagged fields))) (Request.ofMessage kind (.fields (untagged others))) := by
  simp only [Request.ofMessage]
  split
  next start =>
    subst start
    exact (twoFields_agree (by decide) (by decide) (by decide) (by decide) (fun _ => rfl) (fun _ => rfl)
      asPath_ignoresOrder asPath_ignoresOrder alike _).map _
  next =>
    split
    next => rfl
    next => rfl

theorem Report.ofMessage_agree {kind : String} (listed : kind ∈ Report.direction.kinds)
    {fields others : List (String × Json)}
    (alike : ReorderedFields (selected (declared kind) fields) (selected (declared kind) others)) :
    Agree (Report.ofMessage kind (.fields (untagged fields))) (Report.ofMessage kind (.fields (untagged others))) := by
  simp only [Report.direction, List.mem_cons, List.not_mem_nil, or_false] at listed
  rcases listed with rfl | rfl | rfl | rfl | rfl
  · exact (oneField_agree (by decide) (by decide) (fun _ => rfl) asStrings_ignoresOrder alike _).map Report.log
  · exact (oneField_agree (by decide) (by decide) (fun _ => rfl) asStrings_ignoresOrder alike _).map Report.logError
  · exact (twoFields_agree (by decide) (by decide) (by decide) (by decide) (fun _ => rfl) (fun _ => rfl)
      asByte_ignoresOrder asBoolean_ignoresOrder alike _).map _
  · exact (oneField_agree (by decide) (by decide) (fun _ => rfl) asAny_ignoresOrder alike _).map Report.failure
  · exact (oneField_agree (by decide) (by decide) asOutcome_restricted asOutcome_ignoresOrder alike _).map
      Report.finished

/-- A line is a request or a report but never both, so what one side reads breaks the protocol when it comes back to the
other. And frames that are objects say the same, or are refused together, if the fields that their kind declares differ
only in the order of keys. -/
theorem frames_have_direction_but_no_order :
    (∀ line request report, ¬ (Request.decode line = .ok request ∧ Report.decode line = .ok report)) ∧
    (∀ line request, Request.decode line = .ok request →
      ∃ detail, Link.event? (.outputLine line) = some (.violated detail)) ∧
    (∀ line report surroundings (service : Service), Report.decode line = .ok report →
      ∃ fault, (service.onLine surroundings line).1.ending = some (.malformed fault)) ∧
    (∀ request : Request, Request.decode request.toJson.compact = .ok request ∧
      ∃ detail, Link.event? (.outputLine request.toJson.compact) = some (.violated detail)) ∧
    (∀ (report : Report) surroundings (service : Service),
      (report.Sendable → Report.decode report.toJson.compact = .ok report) ∧
      ∃ fault, (service.onLine surroundings report.toJson.compact).1.ending = some (.malformed fault)) ∧
    ∀ line other fields others, Holds line fields → Holds other others → Alike fields others →
      Agree (Request.decode line) (Request.decode other) ∧ Agree (Report.decode line) (Report.decode other) := by
  refine ⟨?_, ?_, ?_, ?_, ?_, ?_⟩
  · intro line request report both
    exact decode_apart both.1 both.2
  · intro line request asked
    exact Link.event?_request asked
  · intro line report surroundings service told
    exact service.onLine_report told surroundings
  · intro request
    exact ⟨request.spelled.decode, Link.event?_echo request⟩
  · intro report surroundings service
    exact ⟨fun sendable => (Report.spelled sendable).decode, service.onLine_echo report surroundings⟩
  · intro line other fields others holds holds' alike
    exact ⟨decodeFrame_agree (fun kind _ fields others => Request.ofMessage_agree) holds holds' alike.reordered,
      decodeFrame_agree (fun kind listed fields others => Report.ofMessage_agree listed) holds holds' alike.reordered⟩

/-- The outcome of a build with its keys the other way round and with more fields than it declares. -/
def shuffled : List (String × Json) :=
  [("took", .number (.whole 7)), ("stats", .object [("hash", .null), ("warnings", .list []), ("errors", .list [.string "e"])]),
    ("command", .string "result-stats")]

theorem shuffled_outcome_is_read : Report.decode (object shuffled).compact = .ok (.finished ⟨["e"], []⟩) := by
  let errors : Json := .list [.string "e"]
  let outcome : List (String × Json) := [("errors", errors), ("warnings", .list [])]
  let sent : List (String × Json) := [("command", .string "result-stats"), ("stats", .object outcome)]
  have decoded : Report.decode (object sent).compact = .ok (.finished ⟨["e"], []⟩) :=
    (@Report.spelled (.finished ⟨["e"], []⟩) trivial).decode
  have texts : Fits 125 errors := ofTexts_fits ["e"] 124
  have none : Fits 125 (.list []) := ofTexts_fits [] 124
  have plain : Fits 126 (.object outcome) :=
    .object (List.forall_mem_cons.mpr ⟨texts, List.forall_mem_singleton.mpr none⟩)
  have rich : Fits 126 (.object [("hash", .null), ("warnings", .list []), ("errors", errors)]) :=
    .object (List.forall_mem_cons.mpr ⟨.null, List.forall_mem_cons.mpr ⟨none, List.forall_mem_singleton.mpr texts⟩⟩)
  have sent_holds : Holds (object sent).compact sent :=
    holds_compact (.object (List.forall_mem_cons.mpr ⟨.string _, List.forall_mem_singleton.mpr plain⟩))
  have shuffled_holds : Holds (object shuffled).compact shuffled :=
    holds_compact (.object (List.forall_mem_cons.mpr ⟨.whole ⟨by decide, by decide⟩,
      List.forall_mem_cons.mpr ⟨rich, List.forall_mem_singleton.mpr (.string _)⟩⟩))
  have inside : ReorderedFields [("warnings", .list []), ("errors", errors)] outcome :=
    .of_perm (.swap _ _ _) (by decide)
  have alike : Alike shuffled sent :=
    .inl (.trans (.cons "stats" (.object inside) (.refl _)) (.swap (by decide) _ _ _))
  obtain ⟨-, -, -, -, -, unordered⟩ := frames_have_direction_but_no_order
  have agree := (unordered _ _ shuffled sent shuffled_holds sent_holds alike).2
  rw [decoded] at agree
  exact agree.ok

end BuildWatch
