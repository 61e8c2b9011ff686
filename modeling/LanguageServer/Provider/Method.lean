import LanguageServer.Document
import LanguageServer.Wire.Feature

namespace LanguageServer

/-!
The contract between the server and the language analysis.  The analysis is a
set of providers; each provides one or more methods.  A method takes a document
snapshot and further arguments and gives an answer, or it panics.  A provider
is a function: the same arguments give the same answer.

The types of arguments and answers depend on the method, so a call is a method
together with an argument for it, and one function answers all calls.
-/

/-- The methods of the providers. -/
inductive Method where
  | diagnostics
  | hover
  | implementations
  | signatureHelp
  | definitions
  | references
  | completions
  | canFormat
  | formatting
  | foldingRanges
  | semanticTokens
  | prepareRename
  | rename
  | documentSymbols
  | prepareTypeHierarchy
  | subtypes
  | supertypes
  | inlayHints
  | codeActions
  | selectionRanges
  deriving DecidableEq, Repr

namespace Method

/-- The name of a method. -/
def name : Method → String
  | .diagnostics => "provide_diagnostics"
  | .hover => "provide_hover"
  | .implementations => "provide_implementations"
  | .signatureHelp => "provide_signature_help"
  | .definitions => "provide_definitions"
  | .references => "provide_references"
  | .completions => "provide_completions"
  | .canFormat => "can_format"
  | .formatting => "provide_formatting"
  | .foldingRanges => "provide_folding_ranges"
  | .semanticTokens => "provide_semantic_tokens_full"
  | .prepareRename => "provide_prepare_rename"
  | .rename => "provide_rename"
  | .documentSymbols => "provide_document_symbols"
  | .prepareTypeHierarchy => "prepare_type_hierarchy"
  | .subtypes => "type_hierarchy_subtypes"
  | .supertypes => "type_hierarchy_supertypes"
  | .inlayHints => "provide_inlay_hints"
  | .codeActions => "provide_code_actions"
  | .selectionRanges => "provide_selection_ranges"

/-- What a method is called with.  Methods that make sense on typed sources
only take the typed file; the others take the document whatever its kind. -/
abbrev Argument : Method → Type
  | .diagnostics => TypedFile
  | .hover => Document × Position
  | .implementations => TypedFile × Position
  | .signatureHelp => TypedFile × Position
  | .definitions => Document × Position
  | .references => Document × Position
  | .completions => TypedFile × Position
  | .canFormat => TypedFile
  | .formatting => TypedFile × Wire.FormattingOptions
  | .foldingRanges => Document
  | .semanticTokens => Document
  | .prepareRename => TypedFile × Position
  | .rename => TypedFile × Position × String
  | .documentSymbols => TypedFile
  | .prepareTypeHierarchy => TypedFile × Position
  | .subtypes => Wire.TypeHierarchyItem
  | .supertypes => Wire.TypeHierarchyItem
  | .inlayHints => TypedFile × Range
  | .codeActions => TypedFile × Range × Wire.CodeActionContext
  | .selectionRanges => TypedFile × List Position

/-- What a method answers with. -/
abbrev Answer : Method → Type
  | .diagnostics => List Wire.Diagnostic
  | .hover => Option Wire.Hover
  | .implementations => List Location
  | .signatureHelp => Option Wire.SignatureHelp
  | .definitions => List Location
  | .references => List Location
  | .completions => List Wire.CompletionItem
  | .canFormat => Bool
  | .formatting => List TextEdit
  | .foldingRanges => List Wire.FoldingRange
  | .semanticTokens => Wire.SemanticTokens
  | .prepareRename => Option Wire.Range
  | .rename => Option Wire.WorkspaceEdit
  | .documentSymbols => List Wire.DocumentSymbol
  | .prepareTypeHierarchy => List Wire.TypeHierarchyItem
  | .subtypes => List Wire.TypeHierarchyItem
  | .supertypes => List Wire.TypeHierarchyItem
  | .inlayHints => List Wire.InlayHint
  | .codeActions => List CodeAction
  | .selectionRanges => List Wire.SelectionRange

end Method

/-- The end of a method call that gives no answer. -/
structure Panic where
  message : String
  deriving DecidableEq, Repr

/-- A call of a method. -/
structure Call where
  method : Method
  argument : method.Argument

end LanguageServer
