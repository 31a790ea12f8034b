import BuildWatch.Link
import BuildWatch.Worker
import BuildWatch.Proofs.JsonRoundTrip
import BuildWatch.Proofs.StreamLines
import BuildWatch.Proofs.Utf8RoundTrip

/-! What one side writes, the other side reads: in whatever pieces the bytes of a conversation arrive, every message
is one line, and the lines are read as the messages that were sent, in their order. -/

namespace BuildWatch

namespace Json

/-! ### Messages -/

section
variable {direction : Direction}

theorem messageField_kind {kind : String} (known : kind ∈ direction.kinds) (rest : List Char) :
    messageField direction (none, []) tagField (':' :: ((string kind).chars ++ rest)) = .ok ((some kind, []), rest) := by
  have colon : readColon (':' :: ((string kind).chars ++ rest)) = .ok ((), (string kind).chars ++ rest) := rfl
  have quote : skipSpace ((string kind).chars ++ rest) = '"' :: (kind.toList.flatMap escaped ++ '"' :: rest) := by
    rw [chars, textChars_append]
    rfl
  have listed : direction.kinds.contains kind = true := List.contains_iff_mem.mpr known
  have read : readKind direction ((string kind).chars ++ rest) = .ok (kind, rest) := by
    simp only [readKind, quote, bind, Except.bind, readText_escaped, listed, if_true]
    rfl
  simp only [messageField, if_true, Option.isSome_none, Bool.false_eq_true, if_false, bind, Except.bind, colon, read]
  rfl

theorem messageField_free {part : String × Json} (other : part.1 ≠ tagField) (fits : Fits (maxDepth - 1) part.2)
    (read : Partial) {rest : List Char} (ends : Ends rest) :
    messageField direction read part.1 (':' :: (part.2.chars ++ rest)) = .ok ((read.1, part :: read.2), rest) := by
  simp only [messageField, if_neg other, bind, Except.bind, freeField_takes (readValue_chars fits) read.2 ends]
  rfl

theorem messageFields_gathered (parts : List (String × Json)) (read : Partial) :
    parts.foldl (fun read part => (read.1, part :: read.2)) read = (read.1, parts.reverse ++ read.2) := by
  induction parts generalizing read with
  | nil => rfl
  | cons part parts ih => rw [List.foldl_cons, ih, List.reverse_cons, List.append_assoc, List.singleton_append]

variable {kind : String} {parts : List (String × Json)} (known : kind ∈ direction.kinds)
  (fits : ∀ part ∈ parts, part.1 ≠ tagField ∧ Fits (maxDepth - 1) part.2)
include known fits

theorem messageFields_tagged (rest : List Char) :
    messageFields direction (fieldChars ((tagField, string kind) :: parts) ++ '\x7d' :: rest) =
      .ok ((kind, .fields parts), rest) := by
  have enough := length_fieldChars ((tagField, string kind) :: parts) ('\x7d' :: rest)
  have read : readFields (messageField direction)
      ((fieldChars ((tagField, string kind) :: parts) ++ '\x7d' :: rest).length + 1) true (none, [])
      (fieldChars ((tagField, string kind) :: parts) ++ '\x7d' :: rest) =
        .ok ((some kind, parts.reverse ++ []), '\x7d' :: rest) := by
    rw [readFields_all (fun read part => (read.1, part :: read.2))
      (fun part member read _ ends => messageField_free (fits part member).1 (fits part member).2 read ends) enough
      (fun behind _ => messageField_kind known behind), messageFields_gathered]
  simp only [messageFields, closing, bind, Except.bind, read, pure, Except.pure, List.append_nil, List.reverse_reverse]
  rfl

theorem readMessage_tagged :
    readMessage direction (tagged kind parts).chars = .ok ((kind, .fields parts), []) := by
  have brace : skipSpace (tagged kind parts).chars =
      '\x7b' :: (fieldChars ((tagField, string kind) :: parts) ++ ['\x7d']) := rfl
  simp only [readMessage, brace]
  exact messageFields_tagged known fits []

end

theorem trimEnd_object (fields : List (String × Json)) :
    Text.trimEnd (object fields).chars = (object fields).chars := by
  have shape : (object fields).chars = ('\x7b' :: fieldChars fields) ++ ['\x7d'] := by rw [chars, List.cons_append]
  have visible : ¬ Text.isSpace '\x7d' = true := by decide
  rw [shape, Text.trimEnd, Text.dropEndWhile, List.reverse_append, List.reverse_singleton, List.singleton_append,
    List.dropWhile_cons_of_neg visible, List.reverse_cons, List.reverse_reverse]

theorem object_not_blank (fields : List (String × Json)) : Text.isBlank (object fields).compact = false := by
  have brace : Text.isSpace '\x7b' = false := by decide
  simp only [Text.isBlank, compact, String.toList_ofList, chars, List.all_cons, brace, Bool.false_and]

/-- An object that stands for a message: its kind is one of its direction, its fields can be read, and together
they mean the message. -/
inductive Spells {α : Type} (direction : Direction) (ofMessage : String → Body → Except Reason α) :
    Json → α → Prop where
  | intro {kind : String} {parts : List (String × Json)} {message : α} (known : kind ∈ direction.kinds)
    (fits : ∀ part ∈ parts, part.1 ≠ tagField ∧ Fits (maxDepth - 1) part.2)
    (meant : ofMessage kind (.fields parts) = .ok message) : Spells direction ofMessage (tagged kind parts) message

namespace Spells

variable {α : Type} {direction : Direction} {ofMessage : String → Body → Except Reason α} {json : Json} {message : α}
  (spells : Spells direction ofMessage json message)
include spells

/-- The line of a message is read as the message. -/
theorem decode : decodeFrame direction ofMessage json.compact = .ok message := by
  obtain @⟨kind, parts, _, known, fits, meant⟩ := spells
  have read : readFrame direction ofMessage (tagged kind parts).chars = .ok (message, []) := by
    simp only [readFrame, bind, Except.bind, readMessage_tagged known fits, meant]
    rfl
  have trimEnd : Text.trimEnd (tagged kind parts).chars = (tagged kind parts).chars := trimEnd_object _
  simp only [decodeFrame, compact, String.toList_ofList, trimEnd, decodeText, readAll, read]
  rfl

theorem visible : Visible json.compact.toList := by
  obtain @⟨kind, parts, _, known, fits, meant⟩ := spells
  have whole : Fits (maxDepth - 1 + 1) (tagged kind parts) :=
    .object (List.forall_mem_cons.mpr ⟨.string _, fun part member => (fits part member).2⟩)
  rw [compact, String.toList_ofList]
  exact chars_visible whole

theorem not_blank : Text.isBlank json.compact = false := by
  obtain ⟨known, fits, meant⟩ := spells
  exact object_not_blank _

end Spells

/-! ### Fields -/

theorem fits_single {name : String} {value : Json} {depth : Nat} (other : name ≠ tagField) (fits : Fits depth value) :
    ∀ part ∈ [(name, value)], part.1 ≠ tagField ∧ Fits depth part.2 := List.forall_mem_singleton.mpr ⟨other, fits⟩

theorem fits_pair {name₁ name₂ : String} {value₁ value₂ : Json} {depth : Nat} (other₁ : name₁ ≠ tagField)
    (fits₁ : Fits depth value₁) (other₂ : name₂ ≠ tagField) (fits₂ : Fits depth value₂) :
    ∀ part ∈ [(name₁, value₁), (name₂, value₂)], part.1 ≠ tagField ∧ Fits depth part.2 :=
  List.forall_mem_cons.mpr ⟨⟨other₁, fits₁⟩, fits_single other₂ fits₂⟩

theorem ofNat_fits {n : Nat} (small : n < 0x10000000000000000) (depth : Nat) : Fits depth (ofNat n) :=
  .whole ⟨by omega, by omega⟩

theorem ofTexts_fits (texts : List String) (depth : Nat) : Fits (depth + 1) (ofTexts texts) := by
  refine .list fun item member => ?_
  obtain ⟨text, _, rfl⟩ := List.mem_map.mp member
  exact .string text

theorem asStrings_ofTexts (texts : List String) : asStrings (ofTexts texts) = .ok texts := by
  unfold asStrings ofTexts
  induction texts with
  | nil => rfl
  | cons text texts ih =>
    simp only [List.map_cons, List.mapM_cons, asString, bind, Except.bind] at ih ⊢
    rw [ih]
    rfl

theorem asByte_ofNat (byte : UInt8) : asByte (ofNat byte.toNat) = .ok byte := by
  have small := byte.toNat_lt
  have inside : (0 ≤ (byte.toNat : Int) && (byte.toNat : Int) < 256) = true := by
    simp only [Bool.and_eq_true, decide_eq_true_eq]
    omega
  simp only [asByte, ofNat, inside, if_true, Int.toNat_natCast, UInt8.ofNat_toNat]

section
variable {α β : Type}

theorem oneField_single (what name : String) {field : Field α} {value : Json} {meant : α}
    (read : field value = .ok meant) : oneField what name field (.fields [(name, value)]) = .ok meant := by
  simp only [oneField, readSlot, if_true, Slot.fill, read, bind, Except.bind, Except.map, Slot.required]

variable {name₁ name₂ : String} (differ : name₂ ≠ name₁) {field₁ : Field α} {field₂ : Field β} {value₁ value₂ : Json}
  {meant₁ : α} {meant₂ : β} (read₁ : field₁ value₁ = .ok meant₁) (read₂ : field₂ value₂ = .ok meant₂)
include differ read₁ read₂

theorem readSlots_pair :
    readSlots name₁ name₂ field₁ field₂ .missing .missing [(name₁, value₁), (name₂, value₂)] =
      .ok (.given meant₁, .given meant₂) := by
  simp only [readSlots, if_true, if_neg differ, Slot.fill, read₁, read₂, bind, Except.bind, Except.map]

theorem twoFields_pair (what : String) :
    twoFields what name₁ name₂ field₁ field₂ (.fields [(name₁, value₁), (name₂, value₂)]) = .ok (meant₁, meant₂) := by
  simp only [twoFields, readSlots_pair differ read₁ read₂, bind, Except.bind, Slot.required]
  rfl

end

theorem asOutcome_toJson (outcome : Outcome) : asOutcome outcome.toJson = .ok outcome := by
  have differ : "warnings" ≠ "errors" := by decide
  have read := readSlots_pair differ (asStrings_ofTexts outcome.errors) (asStrings_ofTexts outcome.warnings)
  simp only [asOutcome, Outcome.toJson, read, bind, Except.bind]
  rfl

theorem outcome_fits (outcome : Outcome) (depth : Nat) : Fits (depth + 2) outcome.toJson :=
  .object (List.forall_mem_cons.mpr ⟨ofTexts_fits _ depth, List.forall_mem_cons.mpr
    ⟨ofTexts_fits _ depth, List.forall_mem_nil _⟩⟩)

end Json

open Json

theorem Request.spelled (request : Request) : Spells Request.direction Request.ofMessage request.toJson request := by
  cases request with
  | start workingDirectory configFile =>
    have differ : "configFile" ≠ "cwd" := by decide
    have directory : asPath (.string workingDirectory.text) = .ok workingDirectory := rfl
    have file : asPath (.string configFile.text) = .ok configFile := rfl
    have fields := twoFields_pair differ directory file "ToWorker::Start"
    have meant : Request.ofMessage "start" (.fields [("cwd", .string workingDirectory.text),
        ("configFile", .string configFile.text)]) = .ok (.start workingDirectory configFile) := by
      simp only [Request.ofMessage, if_true, fields, Except.map]
    exact .intro (by decide) (fits_pair (by decide) (.string _) (by decide) (.string _)) meant
  | invalidate => exact .intro (by decide) (List.forall_mem_nil _) rfl
  | stop => exact .intro (by decide) (List.forall_mem_nil _) rfl

/-- A report that can be sent: only an error of the tool is free in its shape. It has no doubles, it is not nested
too deep for the message around it, and its objects are settled, as they are wherever a value is held. -/
def Report.Sendable : Report → Prop
  | .failure error => Fits (maxDepth - 1) error ∧ error.settled = error
  | _ => True

theorem Report.spelled {report : Report} (sendable : report.Sendable) :
    Spells Report.direction Report.ofMessage report.toJson report := by
  cases report with
  | log items =>
    have field := oneField_single "FromWorker::Log" "items" (asStrings_ofTexts items)
    exact .intro (by decide) (fits_single (by decide) (ofTexts_fits items 125)) (congrArg (Except.map log) field)
  | logError items =>
    have field := oneField_single "FromWorker::LogError" "items" (asStrings_ofTexts items)
    exact .intro (by decide) (fits_single (by decide) (ofTexts_fits items 125)) (congrArg (Except.map logError) field)
  | progress percent done =>
    have differ : "done" ≠ "percent" := by decide
    have truth : asBoolean (.boolean done) = .ok done := rfl
    have fields := twoFields_pair differ (asByte_ofNat percent) truth "FromWorker::CompileProgress"
    have byte := percent.toNat_lt
    have small := ofNat_fits (n := percent.toNat) (by omega) 126
    have meant : Report.ofMessage "compile-progress" (.fields [("percent", .ofNat percent.toNat),
        ("done", .boolean done)]) = .ok (.progress percent done) := by
      simp only [Report.ofMessage, String.reduceEq, if_true, if_false, fields, Except.map]
    exact .intro (by decide) (fits_pair (by decide) small (by decide) (.boolean done)) meant
  | failure error =>
    have settled : asAny error = .ok error := congrArg Except.ok sendable.2
    have field := oneField_single "FromWorker::ResultError" "error" settled
    exact .intro (by decide) (fits_single (by decide) sendable.1) (congrArg (Except.map failure) field)
  | finished outcome =>
    have field := oneField_single "FromWorker::ResultStats" "stats" (asOutcome_toJson outcome)
    exact .intro (by decide) (fits_single (by decide) (outcome_fits outcome 124)) (congrArg (Except.map finished) field)

/-! ### Readers of lines -/

/-- The watch takes the line of a report for that report. -/
theorem Link.event?_sent {report : Report} (sendable : report.Sendable) :
    Link.event? (.outputLine report.toJson.compact) = some (.reported report) := by
  have spelled := Report.spelled sendable
  have read : Report.decode report.toJson.compact = .ok report := spelled.decode
  simp only [Link.event?, spelled.not_blank, Bool.false_eq_true, if_false, read]

/-- The worker does what the line of a request asks for. -/
theorem Service.onLine_sent (surroundings : ToolSurroundings) (service : Service) (request : Request) :
    service.onLine surroundings request.toJson.compact =
      (⟨(service.worker.obey surroundings request).1,
        if (service.worker.obey surroundings request).2.2 then none else some .completed⟩,
        (service.worker.obey surroundings request).2.1) := by
  have spelled := Request.spelled request
  have read : Request.decode request.toJson.compact = .ok request := spelled.decode
  simp only [Service.onLine, spelled.not_blank, Bool.false_eq_true, if_false, read]

/-! ### Conversations -/

namespace Link

section
variable {α : Type}

/-- The bytes of messages that are written one after the other. -/
def written (toFrame : α → String) (messages : List α) : List UInt8 :=
  messages.flatMap fun message => Utf8.encode (toFrame message)

/-- Lines that carry messages: one for each, with no line end inside, not blank, and read as the message. -/
structure Carries (toFrame : α → String) (decode : String → Except Malformed α) (messages : List α)
    (lines : List String) : Prop where
  frames : lines.map (· ++ "\n") = messages.map toFrame
  single : ∀ line ∈ lines, '\n' ∉ line.toList ∧ '\r' ∉ line.toList
  shown : ∀ line ∈ lines, Text.isBlank line = false
  decoded : lines.map decode = messages.map .ok

/-- In whatever pieces their bytes arrive, the messages come back from the lines that are read, and nothing stays
open behind the last of them. -/
def Arrive (toFrame : α → String) (decode : String → Except Malformed α) (messages : List α) : Prop :=
  ∃ lines, Carries toFrame decode messages lines ∧
    ∀ pieces : List (List UInt8), pieces.flatten = written toFrame messages →
      LineStream.feedAll {} pieces = ({}, lines.map Utf8.encode) ∧
      (LineStream.feedAll {} pieces).2.map InputEvent.ofBytes = lines.map .line

theorem single_of_visible {line : String} (visible : Visible line.toList) : LineStream.Single (Utf8.encode line) := by
  have absent : ∀ b : UInt8, b.toNat < 0x20 → b ∉ Utf8.encode line := by
    intro b control member
    obtain ⟨c, inside, same⟩ := Utf8.char_of_ascii member (Nat.lt_trans control (by decide))
    have readable := visible c inside
    omega
  exact ⟨absent _ (by decide), absent _ (by decide)⟩

theorem feed_written {lines : List String} (visible : ∀ line ∈ lines, Visible line.toList) :
    ({} : LineStream).feed (written (· ++ "\n") lines) = ({}, lines.map Utf8.encode) := by
  have ending : Utf8.encode "\n" = [LineStream.lineFeed] := by rw [Utf8.encode_eq]; rfl
  have bytes : written (· ++ "\n") lines = (lines.map Utf8.encode).flatMap (· ++ [LineStream.lineFeed]) := by
    simp only [written, Utf8.encode_append, ending, List.flatMap_map]
  rw [bytes]
  exact LineStream.feed_lines (List.forall_mem_map.mpr fun line member => single_of_visible (visible line member))

variable {direction : Direction} {ofMessage : String → Body → Except Reason α} {toJson : α → Json} {messages : List α}
  (spelled : ∀ message ∈ messages, Spells direction ofMessage (toJson message) message)
include spelled

theorem compact_carries :
    Carries (fun message => (toJson message).toFrame) (decodeFrame direction ofMessage) messages
      (messages.map fun message => (toJson message).compact) := by
  refine ⟨?_, ?_, ?_, ?_⟩
  · rw [List.map_map]
    rfl
  · intro line member
    obtain ⟨message, inside, rfl⟩ := List.mem_map.mp member
    have visible := (spelled message inside).visible
    exact ⟨fun feed => absurd (visible _ feed) (by decide), fun back => absurd (visible _ back) (by decide)⟩
  · intro line member
    obtain ⟨message, inside, rfl⟩ := List.mem_map.mp member
    exact (spelled message inside).not_blank
  · rw [List.map_map]
    refine List.map_congr_left fun message inside => ?_
    rw [Function.comp_apply, (spelled message inside).decode]

theorem messages_arrive :
    Arrive (fun message => (toJson message).toFrame) (decodeFrame direction ofMessage) messages := by
  -- the lines are the frames without their line feeds
  refine ⟨_, compact_carries spelled, fun pieces whole => ?_⟩
  have visible : ∀ line ∈ messages.map (fun message => (toJson message).compact), Visible line.toList :=
    List.forall_mem_map.mpr fun message inside => (spelled message inside).visible
  have bytes : written (fun message => (toJson message).toFrame) messages =
      written (· ++ "\n") (messages.map fun message => (toJson message).compact) := by
    simp only [written, List.flatMap_map, Json.toFrame]
  have read := feed_written visible
  rw [← bytes, ← whole, ← LineStream.feedAll_flatten] at read
  refine ⟨read, ?_⟩
  rw [read, List.map_map]
  refine List.map_congr_left fun line _ => ?_
  simp only [Function.comp_apply, InputEvent.ofBytes, Utf8.decode_encode]

end

/-- Both directions of a conversation arrive as they were sent, whatever characters are in their texts. -/
theorem conversation_arrives (requests : List Request) {reports : List Report}
    (sendable : ∀ report ∈ reports, report.Sendable) :
    Arrive Request.toFrame Request.decode requests ∧ Arrive Report.toFrame Report.decode reports := by
  have asked := messages_arrive fun request (_ : request ∈ requests) => request.spelled
  have told := messages_arrive fun report member => Report.spelled (sendable report member)
  exact ⟨asked, told⟩

/-- Reports with characters that end lines, quotations and texts, and with a nested error. -/
def awkward : List Report :=
  [.line "a\nb\r\"\\\x00", .progress 255 true, .failure (.object [("code", .number (.whole (-0x8000000000000000))),
    ("stack", .list [.null, .string "é\r\n"])])]

theorem awkward_texts_arrive :
    (∀ report ∈ awkward, report.Sendable) ∧
    Arrive Request.toFrame Request.decode [.start ⟨"/a\nb"⟩ ⟨"\r"⟩, .invalidate, .stop] ∧
    Arrive Report.toFrame Report.decode awkward := by
  have stack : Fits 125 (.list [.null, .string "é\r\n"]) :=
    .list (List.forall_mem_cons.mpr ⟨.null, List.forall_mem_singleton.mpr (.string _)⟩)
  have error : Fits 126 (.object [("code", .number (.whole (-0x8000000000000000))), ("stack", .list [.null, .string "é\r\n"])]) :=
    .object (List.forall_mem_cons.mpr ⟨.whole ⟨by decide, by decide⟩, List.forall_mem_singleton.mpr stack⟩)
  have sendable : ∀ report ∈ awkward, report.Sendable :=
    List.forall_mem_cons.mpr ⟨trivial, List.forall_mem_cons.mpr ⟨trivial, List.forall_mem_singleton.mpr ⟨error, rfl⟩⟩⟩
  exact ⟨sendable, conversation_arrives _ sendable⟩

end Link

end BuildWatch
