import BuildWatch.Proofs.FrameRoundTrip
import BuildWatch.Proofs.JsonReading
import Mathlib.Data.List.TakeWhile

/-! A line is read in one direction of the conversation at most. The kinds of the two directions are different ones, so
whoever gets back what it has sent cannot take it for a message. -/

namespace BuildWatch

namespace Json

theorem readKind_ok {direction : Direction} {text rest : List Char} {kind : String} :
    readKind direction text = .ok (kind, rest) ↔
      ∃ behind, skipSpace text = '"' :: behind ∧ readText behind = .ok (kind, rest) ∧ kind ∈ direction.kinds := by
  constructor
  · intro read
    simp only [readKind, bind, Except.bind] at read
    split at read
    next behind ahead =>
      cases spelled : readText behind with
      | error _ =>
        rw [spelled] at read
        cases read
      | ok found =>
        simp only [spelled] at read
        split at read
        next known =>
          cases read
          exact ⟨behind, ahead, spelled, List.contains_iff_mem.mp known⟩
        next => cases read
    next => cases read
    next => cases read
    next =>
      split at read
      next => cases read
      next => cases read
  · rintro ⟨behind, ahead, spelled, known⟩
    simp only [readKind, ahead, bind, Except.bind, spelled, List.contains_iff_mem.mpr known, if_true]
    rfl

theorem messageField_tag {direction : Direction} {given : Partial} {text : List Char} {read : Partial × List Char}
    (taken : messageField direction given tagField text = .ok read) :
    ∃ behind kind, given.1 = none ∧ readColon text = .ok ((), behind) ∧ readKind direction behind = .ok (kind, read.2) ∧
      read.1 = (some kind, given.2) := by
  simp only [messageField, if_true] at taken
  cases tag : given.1 with
  | some kind => simp [tag] at taken
  | none =>
    simp only [tag, Option.isSome_none, Bool.false_eq_true, if_false, bind, Except.bind] at taken
    cases colon : readColon text with
    | error _ =>
      rw [colon] at taken
      cases taken
    | ok behind =>
      simp only [colon] at taken
      cases kind : readKind direction behind.2 with
      | error _ =>
        rw [kind] at taken
        cases taken
      | ok found =>
        rw [kind] at taken
        cases taken
        exact ⟨behind.2, found.1, rfl, rfl, kind, rfl⟩

theorem messageField_other {direction : Direction} {key : String} (other : key ≠ tagField) (given : Partial)
    (text : List Char) :
    messageField direction given key text =
      (freeField (readValue (maxDepth - 1)) given.2 key text).map fun (fields, rest) => ((given.1, fields), rest) := by
  rw [messageField, if_neg other]
  cases freeField (readValue (maxDepth - 1)) given.2 key text <;> rfl

/-- A message is an object with a kind among its fields, or a list with a kind in front. -/
theorem readMessage_ok {direction : Direction} {text : List Char} {read : (String × Body) × List Char}
    (taken : readMessage direction text = .ok read) :
    (∃ inside kept rest, skipSpace text = '\x7b' :: inside ∧
      readFields (messageField direction) (inside.length + 1) true (none, []) inside = .ok ((some read.1.1, kept), rest)) ∨
    ∃ inside begun rest, skipSpace text = '[' :: inside ∧ nextItem true inside = .ok (some begun) ∧
      readKind direction begun = .ok (read.1.1, rest) := by
  obtain ⟨⟨tag, body⟩, last⟩ := read
  simp only [readMessage] at taken
  split at taken
  next inside ahead =>
    obtain ⟨rest, content, -⟩ := closing_ok taken
    simp only [bind, Except.bind] at content
    split at content
    next => cases content
    next found fields =>
      obtain ⟨⟨kind?, kept⟩, behind⟩ := found
      cases kind? with
      | none => cases content
      | some kind =>
        cases content
        exact .inl ⟨inside, kept, behind, ahead, fields⟩
  next inside ahead =>
    obtain ⟨rest, content, -⟩ := closing_ok taken
    simp only [bind, Except.bind] at content
    split at content
    next => cases content
    next => cases content
    next begun items =>
      split at content
      next => cases content
      next found kind =>
        split at content
        next => cases content
        next =>
          cases content
          exact .inr ⟨inside, begun, found.2, ahead, items, kind⟩
  next =>
    simp only [bind, Except.bind] at taken
    split at taken
    next => cases taken
    next => cases taken

section
variable {one other : Direction} (apart : ∀ kind ∈ one.kinds, kind ∉ other.kinds)
include apart

theorem readKind_apart {text : List Char} {read read' : String × List Char} (first : readKind one text = .ok read)
    (second : readKind other text = .ok read') : False := by
  obtain ⟨behind, ahead, spelled, known⟩ := readKind_ok.mp first
  obtain ⟨behind', ahead', spelled', known'⟩ := readKind_ok.mp second
  cases ahead.symm.trans ahead'
  have same : read = read' := Except.ok.inj (spelled.symm.trans spelled')
  exact apart read.1 known (same ▸ known')

/-- Both directions read a field alike, unless it is the kind. -/
theorem messageField_apart {given : Partial} {key : String} {text : List Char} {read read' : Partial × List Char}
    (first : messageField one given key text = .ok read) (second : messageField other given key text = .ok read') :
    read = read' ∧ read.1.1 = given.1 := by
  by_cases tag : key = tagField
  · subst tag
    obtain ⟨behind, kind, -, colon, found, -⟩ := messageField_tag first
    obtain ⟨behind', kind', -, colon', found', -⟩ := messageField_tag second
    cases colon.symm.trans colon'
    exact (readKind_apart apart found found').elim
  · rw [messageField_other tag] at first second
    obtain ⟨fields, -, same⟩ := raw_of_map _ first
    exact ⟨Except.ok.inj (first.symm.trans second), congrArg (·.1) same.symm⟩

theorem readFields_apart {fuel : Nat} {begun : Bool} {given : Partial} {text : List Char}
    {read read' : Partial × List Char} (first : readFields (messageField one) fuel begun given text = .ok read)
    (second : readFields (messageField other) fuel begun given text = .ok read') : read.1.1 = given.1 := by
  induction fuel generalizing begun given text with
  | zero => cases first
  | succ fuel ih =>
    rcases readFields_ok first with ⟨-, rfl⟩ | ⟨ahead, key, behind, state, rest, next, spelled, found, later⟩
    · rfl
    rcases readFields_ok second with ⟨ended, -⟩ | ⟨ahead', key', behind', state', rest', next', spelled', found', later'⟩
    · cases next.symm.trans ended
    cases next.symm.trans next'
    cases spelled.symm.trans spelled'
    obtain ⟨same, kept⟩ := messageField_apart apart found found'
    cases same
    exact (ih later later').trans kept

theorem readMessage_apart {text : List Char} {read read' : (String × Body) × List Char}
    (first : readMessage one text = .ok read) (second : readMessage other text = .ok read') : False := by
  rcases readMessage_ok first with ⟨inside, kept, rest, ahead, fields⟩ | ⟨inside, begun, rest, ahead, next, kind⟩ <;>
    rcases readMessage_ok second with ⟨inside', kept', rest', ahead', fields'⟩ | ⟨inside', begun', rest', ahead', next', kind'⟩ <;>
    cases ahead.symm.trans ahead'
  · cases readFields_apart apart fields fields'
  · cases next.symm.trans next'
    exact readKind_apart apart kind kind'

end

/-- An object that starts with the kind of a message, if the direction does not know that kind. -/
theorem readMessage_foreign {direction : Direction} {kind : String} (foreign : kind ∉ direction.kinds)
    (parts : List (String × Json)) (read : (String × Body) × List Char) :
    readMessage direction (tagged kind parts).chars ≠ .ok read := by
  intro taken
  have text : fieldChars ((tagField, string kind) :: parts) ++ ['\x7d'] =
      '"' :: (tagField.toList.flatMap escaped ++ '"' :: ':' :: '"' :: (kind.toList.flatMap escaped ++
        '"' :: (further fieldText parts ++ ['\x7d']))) := by
    rw [fieldChars_cons, List.append_assoc, fieldText_append, chars, textChars_append]
  rcases readMessage_ok taken with ⟨inside, kept, rest, ahead, fields⟩ | ⟨inside, begun, rest, ahead, -, -⟩
  · cases ahead
    change readFields _ (_ + 1) true (none, []) (fieldChars ((tagField, string kind) :: parts) ++ ['\x7d']) = _ at fields
    rw [text] at fields
    rcases readFields_ok fields with ⟨ended, -⟩ | ⟨behind, key, later, state, rest', next, named, found, -⟩
    · cases ended
    cases next
    rw [readText_escaped] at named
    cases named
    obtain ⟨value, kind', -, colon, spelled, -⟩ := messageField_tag found
    cases colon
    obtain ⟨quoted, shown, told, known⟩ := readKind_ok.mp spelled
    cases shown
    rw [readText_escaped] at told
    cases told
    exact foreign known
  · cases ahead

section
variable {α : Type} {direction : Direction} {ofMessage : String → Body → Except Reason α} {line : String} {message : α}

theorem decodeFrame_ok (decoded : decodeFrame direction ofMessage line = .ok message) :
    ∃ read, readMessage direction (Text.trimEnd line.toList) = .ok read := by
  cases taken : readMessage direction (Text.trimEnd line.toList) with
  | ok read => exact ⟨read, rfl⟩
  | error fault =>
    have failed : readFrame direction ofMessage (Text.trimEnd line.toList) = .error fault := by
      simp only [readFrame, taken, bind, Except.bind]
    simp only [decodeFrame, decodeText, String.toList_ofList, readAll, failed] at decoded
    cases decoded

theorem decodeFrame_shown (decoded : decodeFrame direction ofMessage line = .ok message) : Text.isBlank line = false := by
  obtain ⟨read, taken⟩ := decodeFrame_ok decoded
  cases blank : Text.isBlank line with
  | false => rfl
  | true =>
    have spaces : line.toList.reverse.dropWhile Text.isSpace = [] :=
      List.dropWhile_eq_nil_iff.mpr fun c member => List.all_eq_true.mp blank c (List.mem_reverse.mp member)
    have nothing : Text.trimEnd line.toList = [] := by rw [Text.trimEnd, Text.dropEndWhile, spaces, List.reverse_nil]
    rw [nothing] at taken
    cases taken

end

end Json

open Json

/-- No line is a request and a report. -/
theorem decode_apart {line : String} {request : Request} {report : Report} (asked : Request.decode line = .ok request)
    (told : Report.decode line = .ok report) : False := by
  have apart : ∀ kind ∈ Request.direction.kinds, kind ∉ Report.direction.kinds := by decide
  obtain ⟨_, first⟩ := decodeFrame_ok asked
  obtain ⟨_, second⟩ := decodeFrame_ok told
  exact readMessage_apart apart first second

theorem Link.event?_request {line : String} {request : Request} (asked : Request.decode line = .ok request) :
    ∃ detail, Link.event? (.outputLine line) = some (.violated detail) := by
  cases told : Report.decode line with
  | ok report => exact (decode_apart asked told).elim
  | error malformed =>
    refine ⟨malformed.message, ?_⟩
    simp only [Link.event?, decodeFrame_shown asked, Bool.false_eq_true, if_false, told]

/-- A request that comes back is a violation. -/
theorem Link.event?_echo (request : Request) :
    ∃ detail, Link.event? (.outputLine request.toJson.compact) = some (.violated detail) :=
  event?_request request.spelled.decode

namespace Service

theorem onLine_malformed {line : String} (shown : Text.isBlank line = false)
    (foreign : ∀ request, Request.decode line ≠ .ok request) (surroundings : ToolSurroundings) (service : Service) :
    ∃ fault, (service.onLine surroundings line).1.ending = some (.malformed fault) := by
  cases asked : Request.decode line with
  | ok request => exact (foreign request asked).elim
  | error fault =>
    refine ⟨fault, ?_⟩
    simp only [onLine, shown, Bool.false_eq_true, if_false, asked]
    rfl

theorem onLine_report {line : String} {report : Report} (told : Report.decode line = .ok report)
    (surroundings : ToolSurroundings) (service : Service) :
    ∃ fault, (service.onLine surroundings line).1.ending = some (.malformed fault) :=
  onLine_malformed (decodeFrame_shown told) (fun _ asked => decode_apart asked told) surroundings service

/-- A report that comes back ends the service, whether or not the watch could have read it. -/
theorem onLine_echo (report : Report) (surroundings : ToolSurroundings) (service : Service) :
    ∃ fault, (service.onLine surroundings report.toJson.compact).1.ending = some (.malformed fault) := by
  obtain ⟨kind, parts, shape, foreign⟩ :
      ∃ kind parts, report.toJson = tagged kind parts ∧ kind ∉ Request.direction.kinds := by
    cases report <;> exact ⟨_, _, rfl, by decide⟩
  have shown : Text.isBlank report.toJson.compact = false := shape ▸ object_not_blank _
  refine onLine_malformed shown (fun request asked => ?_) surroundings service
  obtain ⟨read, taken⟩ := decodeFrame_ok asked
  have whole : Text.trimEnd (tagged kind parts).chars = (tagged kind parts).chars := trimEnd_object _
  rw [compact, String.toList_ofList, shape, whole] at taken
  exact readMessage_foreign foreign parts read taken

end Service

end BuildWatch
