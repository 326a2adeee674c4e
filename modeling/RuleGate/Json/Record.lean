import RuleGate.Json.Reader

/-!
Records as JSON writes them: an object whose members are the fields by name, in any order, or an
array that holds the fields by position. Members under unknown names are skipped. A field that may
be missing keeps the value that it has in the empty record.
-/

namespace RuleGate.Json

/-- A field of a record: its name, whether it must be there, and how its value is read into the
record read so far. -/
structure Field (σ : Type) where
  name : String
  required : Bool
  read : σ → Reader σ

/-- What a record consists of: its title in messages, the record before any field is read, and the
fields in the order of their positions. -/
structure Shape (σ : Type) where
  title : String
  empty : σ
  fields : List (Field σ)

/-- The member for a text, if it is there. -/
def textMember (name : String) (value : Option String) : List (String × Json) :=
  value.toList.map fun text => (name, .string text)

def Found.of : Json → Found
  | .null => .null
  | .bool value => .bool value
  | .number value => .number value
  | .string value => .string value
  | .array _ => .sequence
  | .object _ => .map

namespace Reader

/-! ### Single values -/

/-- Stops because the next value is not of the expected kind. It is gone past first, unless it is an
array or an object. -/
def failType {α : Type} (expected : String) : Reader α := do
  let value ← valueWith fun bracket =>
    pure (if bracket = '[' then .array [] else .object [])
  fail (.invalidType (Found.of value) expected)

/-- Reads a value that may be null. -/
def optional {α : Type} (reader : Reader α) : Reader (Option α) := do
  match ← peekPastSpace? with
  | some 'n' =>
    advance
    letters ['u', 'l', 'l']
    pure none
  | _ =>
    let value ← reader
    pure (some value)

/-- Reads a string, which messages call by the given words. -/
def text (expected : String) : Reader String := do
  match ← peekPastSpace? with
  | none => fail .endInValue
  | some '"' =>
    advance
    string
  | some _ => failType expected

/-- Reads an object in whose members at most `room` arrays and objects lie inside each other. -/
def map (room : Nat) : Reader (Dictionary Json) := do
  match ← peekPastSpace? with
  | none => fail .endInValue
  | some '\x7b' =>
    advance
    object (value room)
  | some _ => failType "a map"

def nothing : Reader Unit := do
  match ← peekPastSpace? with
  | none => fail .endInValue
  | some 'n' =>
    advance
    letters ['u', 'l', 'l']
  | some _ => failType "unit"

/-- Goes past the end of an object in which nothing may follow. -/
def endOfObject : Reader Unit := do
  match ← peekPastSpace? with
  | none => fail .endInObject
  | some '\x7d' => advance
  | some _ => fail .expectedValue

/-- Reads a word of which there is only one: as a string, or as the only key of an object, under
which there is null. -/
def word (expected : String) : Reader Unit := do
  match ← peekPastSpace? with
  | none => fail .endInValue
  | some '"' =>
    advance
    let read ← string
    unless read = expected do fail (.unknownVariant read expected)
  | some '\x7b' =>
    advance
    let read ← text "variant identifier"
    unless read = expected do fail (.unknownVariant read expected)
    colon
    nothing
    endOfObject
  | some _ => failNext .expectedValue

/-! ### Records -/

/-- The field of a text that may be missing or null. -/
def textField {σ : Type} (name expected : String) (set : σ → Option String → σ) : Field σ :=
  ⟨name, false, fun a => do
    let value ← optional (text expected)
    pure (set a value)⟩

/-- Stops behind space and behind the end of an object, if it comes next. -/
def failPastEnd {α : Type} (cause : Cause) : Reader α := do
  match ← peekPastSpace? with
  | some '\x7d' =>
    advance
    fail cause
  | _ => fail cause

/-- The fields that have been read, by their names, and the record that they make. -/
structure Progress (σ : Type) where
  seen : List String
  record : σ

def member {σ : Type} (shape : Shape σ) (p : Progress σ) (key : String) : Reader (Progress σ) :=
  match shape.fields.find? (fun f => f.name == key) with
  | none => do
    colon
    skip
    pure p
  | some field =>
    if p.seen.contains key then failPastEnd (.duplicateField key)
    else do
      colon
      let record ← field.read p.record
      pure ⟨key :: p.seen, record⟩

/-- Reads a record behind its opening brace. -/
def byName {σ : Type} (shape : Shape σ) : Reader σ := do
  let p ← memberLoop (member shape) ((← remaining) + 1) true ⟨[], shape.empty⟩
  advance
  match shape.fields.find? (fun f => f.required && !p.seen.contains f.name) with
  | some missing => fail (.missingField missing.name)
  | none => pure p.record

/-- Goes past the end of an array in which nothing may follow. -/
def endOfArray : Reader Unit := do
  match ← peekPastSpace? with
  | none => fail .endInList
  | some ']' => advance
  | some ',' =>
    advance
    match ← peekPastSpace? with
    | some ']' => failNext .trailingComma
    | _ => failNext .trailingCharacters
  | some _ => failNext .trailingCharacters

/-- Reads the fields from the given position on, behind the opening bracket or the field before. -/
def byPosition {σ : Type} (shape : Shape σ) : List (Field σ) → Nat → σ → Reader σ
  | [], _, record => do
    endOfArray
    pure record
  | field :: rest, position, record => do
    if ← nextItem (position == 0) then
      let record ← field.read record
      byPosition shape rest (position + 1) record
    else if field.required then
      advance
      fail (.invalidLength position
        (shape.title ++ " with " ++ toString shape.fields.length ++ " elements"))
    else byPosition shape rest (position + 1) record

def record {σ : Type} (shape : Shape σ) : Reader σ := do
  match ← peekPastSpace? with
  | none => fail .endInValue
  | some '\x7b' =>
    advance
    byName shape
  | some '[' =>
    advance
    byPosition shape shape.fields 0 shape.empty
  | some _ => failType shape.title

end Reader

end RuleGate.Json
