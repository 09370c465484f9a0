import VisualNovel.Catalog
import VisualNovel.Json.Value

/-!
# Asking a document for data

A decoder walks through a value in document order and stops at the first fault it meets: either
something malformed, or something well formed that is not what was asked for. Entries of a map that
nobody asked for are passed over; they only have to be well formed, by rules a little laxer than
those for what is read.
-/

namespace VisualNovel.Json

/-- Reads data from a value. -/
abbrev Decoder (α : Type) := Value → Except Fault α

namespace Ending

/-- The fault of a list that ends like this, when its entries are read. -/
def ofList : Ending → Except Fault Unit
  | closed => .ok ()
  | cutOff => .error .endInList
  | cutOffAfterComma => .error .endInValue
  | closedAfterComma => .error .trailingComma
  | noComma => .error .expectedCommaInList
  | noKey | inside => .error .expectedValue

/-- The fault of a map that ends like this, when its entries are read. -/
def ofMap : Ending → Except Fault Unit
  | closed => .ok ()
  | cutOff => .error .endInMap
  | cutOffAfterComma => .error .endInValue
  | closedAfterComma => .error .trailingComma
  | noComma => .error .expectedCommaInMap
  | noKey => .error .keyNotText
  | inside => .error .expectedValue

/-- The fault of a list that ends like this, when it is passed over. -/
def ofSkippedList : Ending → Except Fault Unit
  | closedAfterComma => .error .expectedValue
  | e => e.ofList

/-- The fault of a map that ends like this, when it is passed over. -/
def ofSkippedMap : Ending → Except Fault Unit
  | closedAfterComma => .error .keyNotText
  | cutOffAfterComma => .error .endInMap
  | e => e.ofMap

/-- The fault of a record written as a list, all of whose fields have been read, when the list
goes on. -/
def ofFullList (more : Bool) (e : Ending) : Except Fault Unit :=
  if more then .error .trailingCharacters
  else match e with
    | closed => .ok ()
    | cutOff => .error .endInList
    | closedAfterComma => .error .trailingComma
    | _ => .error .trailingCharacters

end Ending

namespace Value

mutual

/-- Passes over a value, which has to be well formed. -/
def skip : Value → Except Fault Unit
  | null | boolean _ => .ok ()
  | number (.numeral _) => .ok ()
  | number _ => .error .invalidNumber
  | text t => t.skip
  | list items ending => do
    skipItems items
    ending.ofSkippedList
  | map members ending => do
    skipMembers members
    ending.ofSkippedMap
  | missing fault => .error fault

/-- Passes over the entries of a list. -/
def skipItems : List Value → Except Fault Unit
  | [] => .ok ()
  | v :: vs => do
    skip v
    skipItems vs

/-- Passes over the entries of a map. -/
def skipMembers : List (RawText × Value) → Except Fault Unit
  | [] => .ok ()
  | (key, v) :: members => do
    key.skip
    skip v
    skipMembers members

end

/-- The fault of a value that is not what is asked for. -/
def faultAs (wanted : Expectation) : Value → Fault
  | null => .unexpected .null wanted
  | boolean b => .unexpected (.boolean b) wanted
  | number (.numeral n) =>
    match n.found with
    | .ok found => .unexpected found wanted
    | .error fault => fault
  | number .malformed => .invalidNumber
  | number .cutOff => .endInValue
  | text t =>
    match t.decode with
    | .ok s => .unexpected (.text s) wanted
    | .error fault => fault
  | list .. => .unexpected .list wanted
  | map .. => .unexpected .map wanted
  | missing fault => fault

end Value

namespace Decoder

/-- Reads a text. -/
def text : Decoder String
  | .text t => t.decode
  | v => .error (v.faultAs .text)

/-- Reads a truth value. -/
def boolean : Decoder Bool
  | .boolean b => .ok b
  | v => .error (v.faultAs .boolean)

/-- Reads an integer of 32 bits. -/
def int32 : Decoder Int32
  | .number (.numeral n) =>
    match n.found with
    | .ok (.integer i) =>
      if Int32.minValue.toInt ≤ i && i ≤ Int32.maxValue.toInt then .ok (Int32.ofInt i)
      else .error (.integerOutOfRange i)
    | .ok found => .error (.unexpected found .int32)
    | .error fault => .error fault
  | v => .error (v.faultAs .int32)

/-- Reads a value that may be null. -/
def optional {α : Type} (decoder : Decoder α) : Decoder (Option α)
  | .null => .ok none
  | v => (decoder v).map some

/-- Reads a list, entry by entry. -/
def list {α : Type} (decoder : Decoder α) : Decoder (List α)
  | .list items ending => do
    let values ← items.mapM decoder
    ending.ofList
    return values
  | v => .error (v.faultAs .list)

/-- Reads one entry of a map. -/
def entry {α : Type} (decoder : Decoder α) (member : RawText × Value) :
    Except Fault (String × α) := do
  let key ← member.1.decode
  let value ← decoder member.2
  return (key, value)

/-- Reads a map whose keys are free. Of several values under one key the last is kept. -/
def catalog {α : Type} (decoder : Decoder α) : Decoder (Catalog α)
  | .map members ending => do
    let entries ← members.mapM (entry decoder)
    ending.ofMap
    return Catalog.ofList entries
  | v => .error (v.faultAs .map)

end Decoder

/-- A field of a record: its names, the first of which it has in messages, and how its value is
read and put into a record. -/
structure Field (ρ : Type) where
  name : String
  aliases : List String
  read : Value → Except Fault (ρ → ρ)

namespace Field

variable {ρ : Type}

/-- A field whose value is put into the record by `set`. -/
def of {α : Type} (name : String) (decoder : Decoder α) (set : α → ρ → ρ)
    (aliases : List String) : Field ρ :=
  ⟨name, aliases, fun v => (decoder v).map set⟩

/-- Whether the field goes by this name. -/
def isCalled (f : Field ρ) (name : String) : Bool := f.name == name || f.aliases.contains name

end Field

/-- How a kind of record is written: as a map from the names of its fields, of which unknown ones
are passed over, or as a list of its fields in order, of which the last ones may be left out. -/
structure Format (ρ : Type) where
  /-- What the kind of record is called in messages. -/
  kind : String
  /-- The record without any fields given. -/
  blank : ρ
  fields : List (Field ρ)
  /-- The name of a field that has to be given, when there is one. It is the first of the
  fields. -/
  required : Option String

namespace Format

variable {ρ : Type}

/-- Reads the fields of a record written as a map into `record`. The names of fields read before
are in `seen`. -/
def readMembers (format : Format ρ) :
    List (RawText × Value) → List String → ρ → Except Fault (List String × ρ)
  | [], seen, record => .ok (seen, record)
  | (key, value) :: members, seen, record => do
    let name ← key.decode
    match format.fields.find? (·.isCalled name) with
    | none =>
      value.skip
      format.readMembers members seen record
    | some field =>
      if seen.contains field.name then throw (.duplicateField field.name)
      let update ← field.read value
      format.readMembers members (field.name :: seen) (update record)

/-- Reads the fields of a record written as a list into `record`; how the list goes on behind the
last field is judged by `ending`. -/
def readItems (ending : Ending) : List (Field ρ) → List Value → ρ → Except Fault ρ
  | [], items, record => do
    ending.ofFullList !items.isEmpty
    return record
  | _ :: _, [], record => do
    ending.ofList
    return record
  | field :: fields, value :: items, record => do
    let update ← field.read value
    readItems ending fields items (update record)

/-- Reads a record. -/
def decode (format : Format ρ) : Decoder ρ
  | .map members ending => do
    let (seen, record) ← format.readMembers members [] format.blank
    ending.ofMap
    match format.required with
    | none => return record
    | some name => if seen.contains name then return record else throw (.missingField name)
  | .list items ending => do
    let record ← readItems ending format.fields items format.blank
    if format.required.isSome && items.isEmpty then
      throw (.tooFewFields 0 format.kind format.fields.length)
    return record
  | v => .error (v.faultAs (.record format.kind))

end Format

/-- Reads a whole document; nothing may follow its value. -/
def Document.decode {α : Type} (decoder : Decoder α) (document : Document) : Except Fault α := do
  let value ← decoder document.value
  if document.trailing then throw .trailingCharacters
  return value

end VisualNovel.Json
