import LanguageServer.Wire.Decode

namespace LanguageServer
namespace Wire

/-!
Shapes of wire values.  A shape says which JSON values have a certain form and
how a value of that form is written again.  It serves where a value has to be
well formed and is at most passed on.  A record is given by key in an object,
or by place in an array; keys that it does not name are ignored, and items
beyond its fields are not allowed.  It is always written by key, without the
keys it does not name.
-/

/-- A form that a JSON value may have.  A value of the form is restated as it
is written; any other value is refused. -/
structure Shape where
  restate? : Json → Option Json

/-- A field of a record. -/
structure Field where
  key : String
  shape : Shape
  /-- Whether an object may leave the field out. -/
  mayBeAbsent : Bool
  /-- Whether an array may end before the field. -/
  mayBeCutOff : Bool
  /-- Whether the field is written when it is null. -/
  keepsNull : Bool

/-- A value that may be null. -/
def Shape.nullable (shape : Shape) : Shape :=
  ⟨fun
    | .null => some .null
    | value => shape.restate? value⟩

namespace Field

/-- A field that must be given. -/
def required (key : String) (shape : Shape) : Field := ⟨key, shape, false, false, true⟩

/-- A field that may be absent from an object, and may be null.  It is written
only when it has a value. -/
def optional (key : String) (shape : Shape) : Field := ⟨key, shape.nullable, true, false, false⟩

/-- A field that may be absent from an object, and may be null.  It is written
in any case. -/
def explicit (key : String) (shape : Shape) : Field := ⟨key, shape.nullable, true, false, true⟩

/-- A field that stands for a default wherever it is not given. -/
def defaulted (key : String) (shape : Shape) : Field := ⟨key, shape, true, true, false⟩

/-- The value of a field for what an object has under its key. -/
def restate? (field : Field) : Option Json → Option Json
  | some value => field.shape.restate? value
  | none => if field.mayBeAbsent then some .null else none

/-- The entry of a field in a written record, if it has one. -/
def entries (field : Field) : Json → Json.Entries
  | .null => if field.keepsNull then [(.text field.key, .null)] else []
  | value => [(.text field.key, value)]

end Field

namespace Shape

/-- Whether a value has the form. -/
def accepts (shape : Shape) (value : Json) : Bool := (shape.restate? value).isSome

/-- Reads a value for its shape alone. -/
def check (shape : Shape) (value : Json) : Option Unit := guard (shape.accepts value)

/-- The values that a reader reads, written as they are. -/
def readBy {α : Type} (read : Json → Option α) : Shape :=
  ⟨fun value => (read value).map fun _ => value⟩

def anything : Shape := ⟨some⟩

def bool : Shape := readBy Json.bool?

def int32 : Shape := readBy Json.int32?

def uint32 : Shape := readBy Json.uint32?

def text : Shape := readBy Json.text?

def uri : Shape := readBy uri?

/-- Any number, whole or not. -/
def number : Shape :=
  ⟨fun
    | .number value => some (.number value)
    | _ => none⟩

/-- A value of one of two forms; the first one takes it if it can. -/
def either (first second : Shape) : Shape :=
  ⟨fun value => first.restate? value <|> second.restate? value⟩

/-- One of certain names.  A name may also be given as the only key of an
object, with null as its value. -/
def name (names : List String) : Shape :=
  ⟨fun
    | .string (.text content) => known content
    | .object [(.text key, .null)] => known key
    | _ => none⟩
where
  known (content : String) : Option Json :=
    if names.contains content then some (.str content) else none

/-- An array whose items all have the same form. -/
def list (item : Shape) : Shape :=
  ⟨fun
    | .array items => (items.mapM item.restate?).map .array
    | _ => none⟩

/-- An array of two items. -/
def pair (item : Shape) : Shape :=
  ⟨fun
    | .array [first, second] => do
        return .array [← item.restate? first, ← item.restate? second]
    | _ => none⟩

/-- An object whose keys are texts of one form and whose values have another. -/
def mapping (key value : Shape) : Shape :=
  ⟨fun
    | .object entries => do
        let restated ← entries.mapM fun entry => do
          guard (key.accepts (.string entry.1))
          return (entry.1, ← value.restate? entry.2)
        return .object restated
    | _ => none⟩

/-- The fields that the entries of an object give. -/
def byKey? : List Field → Json.Entries → Option Json.Entries
  | [], _ => some []
  | field :: fields, entries => do
      let value ← field.restate? (Json.lookup entries field.key)
      return field.entries value ++ (← byKey? fields entries)

/-- The fields that the items of an array give in their order. -/
def byPlace? : List Field → List Json → Option Json.Entries
  | [], [] => some []
  | [], _ :: _ => none
  | field :: fields, [] =>
      if field.mayBeCutOff then (byPlace? fields []).map (field.entries .null ++ ·) else none
  | field :: fields, item :: items => do
      let value ← field.shape.restate? item
      return field.entries value ++ (← byPlace? fields items)

/-- A record given by key. -/
def keyed (fields : List Field) : Shape :=
  ⟨fun
    | .object entries => (byKey? fields entries).map .object
    | _ => none⟩

/-- A record given by key or by place. -/
def record (fields : List Field) : Shape :=
  ⟨fun
    | .object entries => (byKey? fields entries).map .object
    | .array items => (byPlace? fields items).map .object
    | _ => none⟩

/-- One of several records, told apart by a name: an object has it under
`key`, an array has it in front.  The place of a record in the list serves as
its name, too. -/
def tagged (key : String) (cases : List (String × List Field)) : Shape :=
  let select (tag : Json) : Option (String × List Field) :=
    match tag with
    | .string (.text content) => cases.find? fun entry => entry.1 = content
    | .number (.integer place) => if 0 ≤ place then cases[place.toNat]? else none
    | _ => none
  let written (tag : String) (entries : Json.Entries) : Json :=
    .object ((.text key, .str tag) :: entries)
  ⟨fun
    | .object entries => do
        let (tag, fields) ← (Json.lookup entries key).bind select
        return written tag (← byKey? fields (Json.eraseKey entries key))
    | .array (first :: items) => do
        let (tag, fields) ← select first
        return written tag (← byPlace? fields items)
    | _ => none⟩

end Shape

theorem Shape.check_eq_some_iff {shape : Shape} {value : Json} :
    shape.check value = some () ↔ shape.accepts value = true := by
  change (if shape.accepts value = true then some () else none) = some () ↔ _
  by_cases accepted : shape.accepts value = true
  · rw [if_pos accepted]
    exact iff_of_true rfl accepted
  · rw [if_neg accepted]
    exact iff_of_false (fun impossible => nomatch impossible) accepted

end Wire
end LanguageServer
