import BuildWatch.Frame
import BuildWatch.Json.Reader

/-! Reading frames back. The kind of a message may stand anywhere in its object, or first in a list
that gives the fields in their order. An unknown kind is refused on the spot; the fields are looked at
when the whole value has been read, so their faults have no place. -/

namespace BuildWatch

namespace Json

/-- The content of a message beside its kind. -/
inductive Body where
  | fields (fields : List (String × Json))
  | items (items : List Json)

/-- One direction of the conversation: its name in messages and the kinds it knows. -/
structure Direction where
  name : String
  kinds : List String

def Direction.expectation (direction : Direction) : String := s!"internally tagged enum {direction.name}"

def tagField : String := "command"

/-- The kind of a message. A container in its place is refused before it is read. -/
def readKind (direction : Direction) : Reader String := fun given =>
  match skipSpace given with
  | '"' :: rest => do
    let (kind, rest) ← readText rest
    if direction.kinds.contains kind then return (kind, rest)
    else throw (.at (.unknownTag kind direction.kinds) rest)
  | '[' :: rest => .error (.at (.wrongKind (.list []) "variant identifier") ('[' :: rest))
  | '\x7b' :: rest => .error (.at (.wrongKind (.object []) "variant identifier") ('\x7b' :: rest))
  | rest => do
    let (value, rest) ← readPlain rest
    throw (.at (.wrongKind value "variant identifier") rest)

abbrev Partial : Type := Option String × List (String × Json)

/-- A field of a message: its kind, which may not be repeated, or anything else, kept for later. -/
def messageField (direction : Direction) (read : Partial) (key : String) : Reader Partial := fun given =>
  if key = tagField then
    if read.1.isSome then .error ⟨.duplicateField tagField, .behindContainer given⟩
    else do
      let (_, rest) ← readColon given
      let (kind, rest) ← readKind direction rest
      return ((some kind, read.2), rest)
  else do
    let (fields, rest) ← freeField (readValue (maxDepth - 1)) read.2 key given
    return ((read.1, fields), rest)

def messageFields (direction : Direction) : Reader (String × Body) :=
  closing '\x7d' fun given => do
    let (read, rest) ← readFields (messageField direction) (given.length + 1) true (none, []) given
    match read.1 with
    | none => throw ⟨.missingField tagField, .behindContainer rest⟩
    | some kind => return ((kind, .fields read.2.reverse), rest)

def messageItems (direction : Direction) : Reader (String × Body) :=
  closing ']' fun given =>
    match nextItem true given with
    | .error fault => .error fault
    | .ok none => .error ⟨.missingField tagField, .behindContainer given⟩
    | .ok (some given) => do
      let (kind, rest) ← readKind direction given
      let (items, rest) ← readItems (readValue (maxDepth - 1)) (rest.length + 1) false [] rest
      return ((kind, .items items), rest)

def readMessage (direction : Direction) : Reader (String × Body) := fun given =>
  match skipSpace given with
  | '\x7b' :: rest => messageFields direction rest
  | '[' :: rest => messageItems direction rest
  | rest => do
    let (value, rest) ← readPlain rest
    throw (.at (.wrongKind value direction.expectation) rest)

/-! ### Fields -/

abbrev Field (α : Type) := Json → Except Reason α

def asString : Field String
  | string value => .ok value
  | value => .error (.wrongKind value "a string")

def asPath : Field Path
  | string value => .ok ⟨value⟩
  | value => .error (.wrongKind value "path string")

def asBoolean : Field Bool
  | boolean value => .ok value
  | value => .error (.wrongKind value "a boolean")

def asByte : Field UInt8
  | number (.whole value) =>
    if 0 ≤ value && value < 256 then .ok (UInt8.ofNat value.toNat) else .error (.outOfRange value "u8")
  | value => .error (.wrongKind value "u8")

def asStrings : Field (List String)
  | list items => items.mapM asString
  | value => .error (.wrongKind value "a sequence")

def asAny : Field Json := fun value => .ok value.settled

/-- What a message has under a name. It is read where it stands, and refused where it stands again. -/
inductive Slot (α : Type) where
  | missing
  | given (value : α)

def Slot.required (name : String) : Slot α → Except Reason α
  | missing => .error (.missingField name)
  | given value => .ok value

def Slot.orElse (default : α) : Slot α → α
  | missing => default
  | given value => value

def Slot.fill (name : String) (field : Field α) (value : Json) : Slot α → Except Reason (Slot α)
  | missing => (field value).map .given
  | given _ => .error (.duplicateField name)

/-- Looks for one field among others. -/
def readSlot (name : String) (field : Field α) : Slot α → List (String × Json) → Except Reason (Slot α)
  | slot, [] => .ok slot
  | slot, (key, value) :: rest =>
    if key = name then do readSlot name field (← slot.fill name field value) rest
    else readSlot name field slot rest

/-- Looks for two fields, each of which is read in its written turn. -/
def readSlots (name₁ name₂ : String) (field₁ : Field α) (field₂ : Field β) :
    Slot α → Slot β → List (String × Json) → Except Reason (Slot α × Slot β)
  | slot₁, slot₂, [] => .ok (slot₁, slot₂)
  | slot₁, slot₂, (key, value) :: rest =>
    if key = name₁ then do readSlots name₁ name₂ field₁ field₂ (← slot₁.fill name₁ field₁ value) slot₂ rest
    else if key = name₂ then do readSlots name₁ name₂ field₁ field₂ slot₁ (← slot₂.fill name₂ field₂ value) rest
    else readSlots name₁ name₂ field₁ field₂ slot₁ slot₂ rest

def countedElements (count : Nat) : String :=
  if count == 1 then "1 element" else s!"{count} elements"

/-- Refuses items behind the last field. -/
def noFurther (count : Nat) (items : List Json) (value : α) : Except Reason α :=
  if items.length ≤ count then .ok value
  else .error (.wrongLength items.length s!"{countedElements count} in sequence")

/-- Reads the fields of a message with one field. -/
def oneField (what name : String) (field : Field α) : Body → Except Reason α
  | .fields fields => do (← readSlot name field .missing fields).required name
  | .items [] => .error (.wrongLength 0 s!"struct variant {what} with 1 element")
  | .items (item :: rest) => do noFurther 1 (item :: rest) (← field item)

/-- Reads the fields of a message with two fields. -/
def twoFields (what name₁ name₂ : String) (field₁ : Field α) (field₂ : Field β) : Body → Except Reason (α × β)
  | .fields fields => do
    let (slot₁, slot₂) ← readSlots name₁ name₂ field₁ field₂ .missing .missing fields
    return (← slot₁.required name₁, ← slot₂.required name₂)
  | .items [] => .error (.wrongLength 0 s!"struct variant {what} with 2 elements")
  | .items [item] => do
    let _ ← field₁ item
    throw (.wrongLength 1 s!"struct variant {what} with 2 elements")
  | .items (item₁ :: item₂ :: rest) => do
    let value₁ ← field₁ item₁
    let value₂ ← field₂ item₂
    noFurther 2 (item₁ :: item₂ :: rest) (value₁, value₂)

/-- A message without fields takes any object, but no items. -/
def noFields : Body → Except Reason Unit
  | .fields _ => .ok ()
  | .items items => noFurther 0 items ()

/-- Both lists of an outcome may be left out. -/
def asOutcome : Field Outcome
  | object fields => do
    let (errors, warnings) ← readSlots "errors" "warnings" asStrings asStrings .missing .missing fields
    return ⟨errors.orElse [], warnings.orElse []⟩
  | list [] => .ok ⟨[], []⟩
  | list [errors] => do return ⟨← asStrings errors, []⟩
  | list (errors :: warnings :: rest) => do
    let errors' ← asStrings errors
    let warnings' ← asStrings warnings
    noFurther 2 (errors :: warnings :: rest) ⟨errors', warnings'⟩
  | value => .error (.wrongKind value "struct Stats")

end Json

open Json

/-- A frame that could not be read. -/
structure Malformed where
  frame : String
  reason : String

def Malformed.message (malformed : Malformed) : String :=
  s!"malformed frame {Text.quoted malformed.frame}: {malformed.reason}"

def Request.direction : Direction := ⟨"ToWorker", ["start", "invalidate", "stop"]⟩

def Report.direction : Direction :=
  ⟨"FromWorker", ["log", "log-error", "compile-progress", "result-error", "result-stats"]⟩

def Request.ofMessage (kind : String) (body : Body) : Except Reason Request :=
  if kind = "start" then
    (twoFields "ToWorker::Start" "cwd" "configFile" asPath asPath body).map fun (cwd, file) => .start cwd file
  else if kind = "invalidate" then (noFields body).map fun _ => .invalidate
  else (noFields body).map fun _ => .stop

def Report.ofMessage (kind : String) (body : Body) : Except Reason Report :=
  if kind = "log" then (oneField "FromWorker::Log" "items" asStrings body).map .log
  else if kind = "log-error" then (oneField "FromWorker::LogError" "items" asStrings body).map .logError
  else if kind = "compile-progress" then
    (twoFields "FromWorker::CompileProgress" "percent" "done" asByte asBoolean body).map fun (percent, done) =>
      .progress percent done
  else if kind = "result-error" then (oneField "FromWorker::ResultError" "error" asAny body).map .failure
  else (oneField "FromWorker::ResultStats" "stats" asOutcome body).map .finished

/-- Reads a message and then its fields; only after that anything behind the message is refused. -/
def readFrame (direction : Direction) (ofMessage : String → Body → Except Reason α) : Reader α := fun given => do
  let ((kind, body), rest) ← readMessage direction given
  match ofMessage kind body with
  | .ok message => return (message, rest)
  | .error reason => throw ⟨reason, .nowhere⟩

def decodeFrame (direction : Direction) (ofMessage : String → Body → Except Reason α) (line : String) :
    Except Malformed α :=
  let frame := String.ofList (Text.trimEnd line.toList)
  (decodeText (readFrame direction ofMessage) frame).mapError fun reason => ⟨frame, reason⟩

def Request.decode (line : String) : Except Malformed Request := decodeFrame direction ofMessage line

def Report.decode (line : String) : Except Malformed Report := decodeFrame direction ofMessage line

end BuildWatch
