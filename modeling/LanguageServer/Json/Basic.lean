import LanguageServer.Decimal.Shortest

namespace LanguageServer

/-!
JSON values as they are read and written.  Object entries keep their order,
and a key may occur more than once until the object is merged.  A string
literal whose surrogate escapes do not pair up denotes no text; such a literal
can be carried and skipped, but nothing can be read from it.
-/

/-- The content of a string literal. -/
inductive Literal where
  | text (content : String)
  | unpaired
  deriving DecidableEq, Repr

instance : Coe String Literal := ⟨Literal.text⟩

/-- The text of a literal, if it denotes one. -/
def Literal.text? : Literal → Option String
  | .text content => some content
  | .unpaired => none

/-- A number literal.  Whole numbers that fit a 64-bit word are exact; every
other literal stands for a binary number, or for none when it is out of
range.  A literal out of range can be carried and skipped, but nothing can be
read from it. -/
inductive Number where
  | integer (value : Int)
  | real (negative : Bool) (magnitude : Decimal.Binary)
  | outOfRange
  deriving DecidableEq, Repr

/-- The number as it is written.  A literal out of range is written as another
one. -/
def Number.render : Number → String
  | .integer value => toString value
  | .real negative magnitude => Decimal.render negative magnitude
  | .outOfRange => "1e999"

/-- A JSON value. -/
inductive Json where
  | null
  | bool (value : Bool)
  | number (value : Number)
  | string (content : Literal)
  | array (items : List Json)
  | object (entries : List (Literal × Json))
  deriving Repr

namespace Json

/-- The entries of an object. -/
abbrev Entries := List (Literal × Json)

/-- A string value. -/
def str (content : String) : Json := .string (.text content)

/-- A whole number. -/
def int (value : Int) : Json := .number (.integer value)

/-- A natural number. -/
def nat (value : Nat) : Json := int value

/-- An object with the given fields. -/
def record (fields : List (String × Json)) : Json :=
  .object (fields.map fun field => (Literal.text field.1, field.2))

/-- An object with the given fields; those that are missing are left out. -/
def sparse (fields : List (String × Option Json)) : Json :=
  record (fields.filterMap fun field => field.2.map (field.1, ·))

/-- A list of values, each encoded the same way. -/
def list {α : Type} (encode : α → Json) (items : List α) : Json :=
  .array (items.map encode)

/-- A value that may be missing, written as null then. -/
def nullable {α : Type} (encode : α → Json) : Option α → Json
  | none => .null
  | some value => encode value

/-- The value of the first entry with a key. -/
def lookup (entries : Entries) (key : String) : Option Json :=
  (entries.find? fun entry => entry.1 = .text key).map Prod.snd

/-- Whether an object has an entry with a key. -/
def hasKey (entries : Entries) (key : String) : Bool :=
  entries.any fun entry => entry.1 = .text key

/-- The object without the entries of a key. -/
def eraseKey (entries : Entries) (key : String) : Entries :=
  entries.filter fun entry => entry.1 ≠ .text key

/-- The value of a field of an object. -/
def field? (value : Json) (key : String) : Option Json :=
  match value with
  | .object entries => lookup entries key
  | _ => none

mutual

/-- The value with one entry for each key in every object: the last one. -/
def merged : Json → Json
  | .array items => .array (mergedItems items)
  | .object entries => .object (mergedEntries entries)
  | other => other

/-- The items, each merged. -/
def mergedItems : List Json → List Json
  | [] => []
  | item :: rest => merged item :: mergedItems rest

/-- The entries, each merged, without those that a later entry replaces. -/
def mergedEntries : List (Literal × Json) → List (Literal × Json)
  | [] => []
  | (key, value) :: rest =>
      let others := mergedEntries rest
      if others.any fun entry => entry.1 = key then others
      else (key, merged value) :: others

end

end Json
end LanguageServer
