import LanguageServer.Json.Basic
import LanguageServer.Wire.Coordinates

namespace LanguageServer
namespace Wire

/-!
What clients and providers exchange about a document, in wire coordinates:
the results of queries and the structured arguments of some of them.
-/

/-- A name that is a number or a text, such as the code of a diagnostic. -/
inductive Mark where
  | number (value : Int)
  | text (content : String)
  deriving DecidableEq, Repr

/-- A place that helps to understand a diagnostic. -/
structure RelatedInformation where
  location : Location
  message : String

/-- A finding about a range of a document. -/
structure Diagnostic where
  range : Range
  severity : Option Int := none
  code : Option Mark := none
  codeDescription : Option Uri := none
  source : Option String := none
  message : String
  relatedInformation : Option (List RelatedInformation) := none
  tags : Option (List Int) := none
  data : Option Json := none

/-- What is shown for the thing under the cursor. -/
structure Hover where
  contents : String
  range : Option Range := none

/-- The signatures of a call and which of them and of its parameters is being
written. -/
structure SignatureHelp where
  signatures : List String
  activeSignature : Option UInt32 := none
  activeParameter : Option UInt32 := none

/-- A completion. -/
structure CompletionItem where
  label : String
  detail : Option String := none

/-- Lines that can be folded away. -/
structure FoldingRange where
  startLine : UInt32
  endLine : UInt32

/-- The tokens of a document, five words for each token. -/
structure SemanticTokens where
  resultId : Option String := none
  data : List UInt32

/-- A symbol of a document. -/
structure DocumentSymbol where
  name : String
  kind : Int
  range : Range
  selectionRange : Range

/-- A type in the type hierarchy. -/
structure TypeHierarchyItem where
  name : String
  kind : Int
  tags : Option Int := none
  detail : Option String := none
  uri : Uri
  range : Range
  selectionRange : Range
  data : Option Json := none

/-- A label shown inside a line. -/
structure InlayHint where
  position : Position
  label : String

/-- A range to select and the ranges around it, from the inside out. -/
structure SelectionRange where
  range : Range
  enclosing : List Range

/-- A further property of formatting options. -/
inductive FormattingProperty where
  | flag (value : Bool)
  | number (value : Int)
  | text (content : String)
  deriving DecidableEq, Repr

/-- How a client wants a document to be formatted. -/
structure FormattingOptions where
  tabSize : UInt32
  insertSpaces : Bool
  trimTrailingWhitespace : Option Bool := none
  insertFinalNewline : Option Bool := none
  trimFinalNewlines : Option Bool := none
  properties : List (String × FormattingProperty) := []

/-- Why and for which diagnostics actions are asked for. -/
structure CodeActionContext where
  diagnostics : List Diagnostic
  only : Option (List String) := none
  triggerKind : Option Int := none

/-- One entry of a change notification.  The text is the whole new text,
whatever range the entry names. -/
structure ContentChange where
  range : Option Range := none
  rangeLength : Option UInt32 := none
  text : String

end Wire
end LanguageServer
