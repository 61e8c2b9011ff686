import LanguageServer.Wire.Feature

namespace LanguageServer

/-!
Reading wire values from JSON.  A record is read by key from an object; keys
it does not name are ignored.  Where its fields are fixed it is also read by
place from an array that holds exactly its fields.  An optional field may be
absent or null.
-/

namespace Json

/-- A text. -/
def text? : Json → Option String
  | .string (.text content) => some content
  | _ => none

/-- A truth value. -/
def bool? : Json → Option Bool
  | .bool value => some value
  | _ => none

/-- A whole number from `least` to `greatest`. -/
def intBetween? (least greatest : Int) : Json → Option Int
  | .number (.integer value) =>
      if least ≤ value ∧ value ≤ greatest then some value else none
  | _ => none

/-- A signed 32-bit number. -/
def int32? : Json → Option Int := intBetween? (-(Int.pow 2 31)) (Int.pow 2 31 - 1)

/-- An unsigned 32-bit number. -/
def uint32? (value : Json) : Option UInt32 :=
  (intBetween? 0 (Int.pow 2 32 - 1) value).map fun number => number.toNat.toUInt32

/-- An unsigned 64-bit number. -/
def uint64? (value : Json) : Option Nat :=
  (intBetween? 0 (Int.pow 2 64 - 1) value).map Int.toNat

/-- The items of an array. -/
def items? : Json → Option (List Json)
  | .array items => some items
  | _ => none

/-- An array whose items are all read the same way. -/
def listOf? {α : Type} (decode : Json → Option α) (value : Json) : Option (List α) :=
  value.items?.bind fun items => items.mapM decode

/-- The entries of an object. -/
def entries? : Json → Option Entries
  | .object entries => some entries
  | _ => none

/-- The entries of a record with fixed fields, given by key or by place. -/
def fixed? (keys : List String) : Json → Option Entries
  | .object entries => some entries
  | .array items =>
      if items.length = keys.length then some ((keys.map Literal.text).zip items) else none
  | _ => none

/-- The entries of a record given by key, or by place with any number of its
last fields left out. -/
def leading? (keys : List String) : Json → Option Entries
  | .object entries => some entries
  | .array items =>
      if items.length ≤ keys.length then some ((keys.map Literal.text).zip items) else none
  | _ => none

/-- A field that must be present. -/
def required {α : Type} (entries : Entries) (key : String) (decode : Json → Option α) :
    Option α :=
  (lookup entries key).bind decode

/-- A field that may be absent or null.  The outer option is a failure to read
the field, the inner one its absence. -/
def optional {α : Type} (entries : Entries) (key : String) (decode : Json → Option α) :
    Option (Option α) :=
  match lookup entries key with
  | none => some none
  | some .null => some none
  | some value => (decode value).map some

end Json

namespace Wire

open Json (required optional)

/-- A well-formed identifier. -/
def uri? (value : Json) : Option Uri := value.text?.bind Uri.ofString?

def Position.ofJson? (value : Json) : Option Position := do
  let entries ← value.fixed? ["line", "character"]
  return ⟨← required entries "line" Json.uint32?, ← required entries "character" Json.uint32?⟩

def Range.ofJson? (value : Json) : Option Range := do
  let entries ← value.fixed? ["start", "end"]
  return ⟨← required entries "start" Position.ofJson?, ← required entries "end" Position.ofJson?⟩

def Location.ofJson? (value : Json) : Option Location := do
  let entries ← value.fixed? ["uri", "range"]
  return ⟨← required entries "uri" uri?, ← required entries "range" Range.ofJson?⟩

def Mark.ofJson? (value : Json) : Option Mark :=
  (value.int32?.map Mark.number).or (value.text?.map Mark.text)

def RelatedInformation.ofJson? (value : Json) : Option RelatedInformation := do
  let entries ← value.fixed? ["location", "message"]
  return ⟨← required entries "location" Location.ofJson?, ← required entries "message" Json.text?⟩

private def href? (value : Json) : Option Uri := do
  let entries ← value.fixed? ["href"]
  required entries "href" uri?

def Diagnostic.ofJson? (value : Json) : Option Diagnostic := do
  let entries ← value.fixed?
    ["range", "severity", "code", "codeDescription", "source", "message",
     "relatedInformation", "tags", "data"]
  let range ← required entries "range" Range.ofJson?
  let severity ← optional entries "severity" Json.int32?
  let code ← optional entries "code" Mark.ofJson?
  let codeDescription ← optional entries "codeDescription" href?
  let source ← optional entries "source" Json.text?
  let message ← required entries "message" Json.text?
  let relatedInformation ←
    optional entries "relatedInformation" (Json.listOf? RelatedInformation.ofJson?)
  let tags ← optional entries "tags" (Json.listOf? Json.int32?)
  let data ← optional entries "data" some
  return { range, severity, code, codeDescription, source, message, relatedInformation, tags, data }

def TypeHierarchyItem.ofJson? (value : Json) : Option TypeHierarchyItem := do
  let entries ← value.fixed?
    ["name", "kind", "tags", "detail", "uri", "range", "selectionRange", "data"]
  let name ← required entries "name" Json.text?
  let kind ← required entries "kind" Json.int32?
  let tags ← optional entries "tags" Json.int32?
  let detail ← optional entries "detail" Json.text?
  let uri ← required entries "uri" uri?
  let range ← required entries "range" Range.ofJson?
  let selectionRange ← required entries "selectionRange" Range.ofJson?
  let data ← optional entries "data" some
  return { name, kind, tags, detail, uri, range, selectionRange, data }

def FormattingProperty.ofJson? (value : Json) : Option FormattingProperty :=
  ((value.bool?.map FormattingProperty.flag).or
    (value.int32?.map FormattingProperty.number)).or
      (value.text?.map FormattingProperty.text)

/-- The fields of formatting options that have a meaning of their own. -/
def formattingFields : List String :=
  ["tabSize", "insertSpaces", "trimTrailingWhitespace", "insertFinalNewline",
   "trimFinalNewlines"]

def FormattingOptions.ofJson? (value : Json) : Option FormattingOptions := do
  let entries ← value.entries?
  let tabSize ← required entries "tabSize" Json.uint32?
  let insertSpaces ← required entries "insertSpaces" Json.bool?
  let trimTrailingWhitespace ← optional entries "trimTrailingWhitespace" Json.bool?
  let insertFinalNewline ← optional entries "insertFinalNewline" Json.bool?
  let trimFinalNewlines ← optional entries "trimFinalNewlines" Json.bool?
  let others := entries.filter fun entry =>
    !(formattingFields.any fun key => entry.1 = .text key)
  let properties ← others.mapM fun entry => do
    return (← entry.1.text?, ← FormattingProperty.ofJson? entry.2)
  return { tabSize, insertSpaces, trimTrailingWhitespace, insertFinalNewline,
           trimFinalNewlines, properties }

def CodeActionContext.ofJson? (value : Json) : Option CodeActionContext := do
  let entries ← value.fixed? ["diagnostics", "only", "triggerKind"]
  let diagnostics ← required entries "diagnostics" (Json.listOf? Diagnostic.ofJson?)
  let only ← optional entries "only" (Json.listOf? Json.text?)
  let triggerKind ← optional entries "triggerKind" Json.int32?
  return { diagnostics, only, triggerKind }

def ContentChange.ofJson? (value : Json) : Option ContentChange := do
  let entries ← value.fixed? ["range", "rangeLength", "text"]
  let range ← optional entries "range" Range.ofJson?
  let rangeLength ← optional entries "rangeLength" Json.uint32?
  let text ← required entries "text" Json.text?
  return { range, rangeLength, text }

end Wire
end LanguageServer
