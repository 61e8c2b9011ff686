import LanguageServer.Provider.Basic
import LanguageServer.Wire.Encode

namespace LanguageServer

/-!
Queries about documents.  A query names a document by its identifier, or it
carries a type of the type hierarchy and needs no document.  Some inquiries are
answered for documents of every kind, the others for typed sources only; the
two families are two types, so that a snapshot of the right kind is all an
inquiry can be put to.
-/

/-- The operations a query can ask for. -/
inductive Operation where
  | hover
  | definition
  | references
  | foldingRange
  | semanticTokensFull
  | implementation
  | signatureHelp
  | completion
  | formatting
  | prepareRename
  | rename
  | documentSymbol
  | selectionRange
  | prepareTypeHierarchy
  | inlayHint
  | codeAction
  | subtypes
  | supertypes
  deriving DecidableEq, Repr

namespace Operation

/-- The name of an operation. -/
def name : Operation → String
  | .hover => "hover"
  | .definition => "definition"
  | .references => "references"
  | .foldingRange => "folding_range"
  | .semanticTokensFull => "semantic_tokens_full"
  | .implementation => "implementation"
  | .signatureHelp => "signature_help"
  | .completion => "completion"
  | .formatting => "formatting"
  | .prepareRename => "prepare_rename"
  | .rename => "rename"
  | .documentSymbol => "document_symbol"
  | .selectionRange => "selection_range"
  | .prepareTypeHierarchy => "prepare_type_hierarchy"
  | .inlayHint => "inlay_hint"
  | .codeAction => "code_action"
  | .subtypes => "subtypes"
  | .supertypes => "supertypes"

/-- All operations. -/
def all : List Operation :=
  [.hover, .definition, .references, .foldingRange, .semanticTokensFull, .implementation,
   .signatureHelp, .completion, .formatting, .prepareRename, .rename, .documentSymbol,
   .selectionRange, .prepareTypeHierarchy, .inlayHint, .codeAction, .subtypes, .supertypes]

/-- The operation with a name. -/
def ofName? (name : String) : Option Operation :=
  all.find? fun operation => operation.name = name

end Operation

/-- Inquiries about a document of any kind. -/
inductive DocumentInquiry where
  | hover (position : Wire.Position)
  | definition (position : Wire.Position)
  | references (position : Wire.Position)
  | foldingRange
  | semanticTokensFull
  deriving DecidableEq, Repr

/-- Inquiries about a typed source. -/
inductive SourceInquiry where
  | implementation (position : Wire.Position)
  | signatureHelp (position : Wire.Position)
  | completion (position : Wire.Position)
  | formatting (options : Wire.FormattingOptions)
  | prepareRename (position : Wire.Position)
  | rename (position : Wire.Position) (newName : String)
  | documentSymbol
  | selectionRange (positions : List Wire.Position)
  | prepareTypeHierarchy (position : Wire.Position)
  | inlayHint (range : Wire.Range)
  | codeAction (range : Wire.Range) (context : Wire.CodeActionContext)

/-- A query. -/
inductive Query where
  | document (uri : Uri) (inquiry : DocumentInquiry)
  | source (uri : Uri) (inquiry : SourceInquiry)
  | subtypes (item : Wire.TypeHierarchyItem)
  | supertypes (item : Wire.TypeHierarchyItem)

/-- The operation of an inquiry about any document. -/
def DocumentInquiry.operation : DocumentInquiry → Operation
  | .hover _ => .hover
  | .definition _ => .definition
  | .references _ => .references
  | .foldingRange => .foldingRange
  | .semanticTokensFull => .semanticTokensFull

/-- The operation of an inquiry about a typed source. -/
def SourceInquiry.operation : SourceInquiry → Operation
  | .implementation _ => .implementation
  | .signatureHelp _ => .signatureHelp
  | .completion _ => .completion
  | .formatting _ => .formatting
  | .prepareRename _ => .prepareRename
  | .rename _ _ => .rename
  | .documentSymbol => .documentSymbol
  | .selectionRange _ => .selectionRange
  | .prepareTypeHierarchy _ => .prepareTypeHierarchy
  | .inlayHint _ => .inlayHint
  | .codeAction _ _ => .codeAction

/-- The operation of a query. -/
def Query.operation : Query → Operation
  | .document _ inquiry => inquiry.operation
  | .source _ inquiry => inquiry.operation
  | .subtypes _ => .subtypes
  | .supertypes _ => .supertypes

/-- The identifier a query names; for the type hierarchy, that of its item. -/
def Query.uri : Query → Uri
  | .document uri _ => uri
  | .source uri _ => uri
  | .subtypes item => item.uri
  | .supertypes item => item.uri

/-- The answer to a query, in wire coordinates. -/
inductive Answer where
  | hover (found : Option Wire.Hover)
  | locations (found : List Wire.Location)
  | foldingRanges (found : Option (List Wire.FoldingRange))
  | semanticTokens (found : Option Wire.SemanticTokens)
  | signatureHelp (found : Option Wire.SignatureHelp)
  | completions (found : List Wire.CompletionItem)
  | edits (found : List Wire.TextEdit)
  | range (found : Option Wire.Range)
  | workspaceEdit (found : Option Wire.WorkspaceEdit)
  | symbols (found : List Wire.DocumentSymbol)
  | selections (found : List Wire.SelectionRange)
  | types (found : Option (List Wire.TypeHierarchyItem))
  | hints (found : List Wire.InlayHint)
  | actions (found : List Wire.CodeAction)

/-- The answer as JSON. -/
def Answer.toJson : Answer → Json
  | .hover found => Json.nullable Wire.Hover.toJson found
  | .locations found => Json.list Wire.Location.toJson found
  | .foldingRanges found => Json.nullable (Json.list Wire.FoldingRange.toJson) found
  | .semanticTokens found => Json.nullable Wire.SemanticTokens.toJson found
  | .signatureHelp found => Json.nullable Wire.SignatureHelp.toJson found
  | .completions found => Json.list Wire.CompletionItem.toJson found
  | .edits found => Json.list Wire.TextEdit.toJson found
  | .range found => Json.nullable Wire.Range.toJson found
  | .workspaceEdit found => Json.nullable Wire.WorkspaceEdit.toJson found
  | .symbols found => Json.list Wire.DocumentSymbol.toJson found
  | .selections found => Json.list Wire.SelectionRange.toJson found
  | .types found => Json.nullable (Json.list Wire.TypeHierarchyItem.toJson) found
  | .hints found => Json.list Wire.InlayHint.toJson found
  | .actions found => Json.list Wire.CodeAction.toJson found

/-- The answer when there is no document to ask. -/
def DocumentInquiry.neutral : DocumentInquiry → Answer
  | .hover _ => .hover none
  | .definition _ => .locations []
  | .references _ => .locations []
  | .foldingRange => .foldingRanges none
  | .semanticTokensFull => .semanticTokens none

/-- The answer when there is no typed source to ask. -/
def SourceInquiry.neutral : SourceInquiry → Answer
  | .implementation _ => .locations []
  | .signatureHelp _ => .signatureHelp (some { signatures := [] })
  | .completion _ => .completions []
  | .formatting _ => .edits []
  | .prepareRename _ => .range none
  | .rename _ _ => .workspaceEdit none
  | .documentSymbol => .symbols []
  | .selectionRange _ => .selections []
  | .prepareTypeHierarchy _ => .types none
  | .inlayHint _ => .hints []
  | .codeAction _ _ => .actions []

end LanguageServer
