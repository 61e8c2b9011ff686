import LanguageServer.Provider.Method
import LanguageServer.Wire.Shape.Server

namespace LanguageServer

/-!
Sets of providers.  A provider answers calls of methods.  At start-up it may also
add to, change or remove from what the server declares to the client; providers
take their turns at this in a fixed order.
-/

/-! ## Declared capabilities -/

/-- The places that providers fill, in the order of their turns. -/
inductive Slot where
  | diagnostics
  | hover
  | implementation
  | signatureHelp
  | definitions
  | references
  | completion
  | formatting
  | folding
  | semanticTokens
  | rename
  | documentSymbols
  | typeHierarchy
  | inlayHints
  | codeActions
  | selectionRanges
  deriving DecidableEq, Repr

namespace Slot

/-- All slots in the order of their turns. -/
def all : List Slot :=
  [.diagnostics, .hover, .implementation, .signatureHelp, .definitions, .references,
   .completion, .formatting, .folding, .semanticTokens, .rename, .documentSymbols,
   .typeHierarchy, .inlayHints, .codeActions, .selectionRanges]

/-- The name of a slot. -/
def name : Slot → String
  | .diagnostics => "diagnostics"
  | .hover => "hover"
  | .implementation => "implementation"
  | .signatureHelp => "signature_help"
  | .definitions => "definitions"
  | .references => "references"
  | .completion => "completion"
  | .formatting => "formatting"
  | .folding => "folding"
  | .semanticTokens => "semantic_tokens"
  | .rename => "rename"
  | .documentSymbols => "document_symbols"
  | .typeHierarchy => "type_hierarchy"
  | .inlayHints => "inlay_hints"
  | .codeActions => "code_actions"
  | .selectionRanges => "selection_ranges"

end Slot

/-- Declared capabilities by field. -/
abbrev Capabilities := Json.Entries

namespace Capabilities

/-- What the server declares before any provider takes its turn: documents are
synchronised by sending their whole text. -/
def initial : Capabilities := [("textDocumentSync", .nat 1)]

/-- Whether a field is declared, whatever its value. -/
def has (capabilities : Capabilities) (field : String) : Bool :=
  Json.hasKey capabilities field

/-- Declares a field; null withdraws it. -/
def set (capabilities : Capabilities) (field : String) (value : Json) : Capabilities :=
  let others := Json.eraseKey capabilities field
  match value with
  | .null => others
  | _ => others ++ [(.text field, value)]

/-- The capabilities in the shape of a declaration.  Fields that no declaration
has are dropped; a value out of shape is refused.  The first form that takes a
value decides how it is written, so restating once more may change it again. -/
def restate? (capabilities : Capabilities) : Option Capabilities :=
  Wire.Shape.byKey? Wire.Shape.declarationFields capabilities

end Capabilities

/-! ## Providers -/

/-- The providers a server works with. -/
structure Providers where
  /-- The answer to a call, or the panic it ends in. -/
  answer : (method : Method) → method.Argument → Except Panic method.Answer
  /-- What the provider in a slot makes of the declared capabilities, or the
  panic it ends in. -/
  declare : Slot → Capabilities → Except Panic Capabilities

namespace Providers

/-- The turns of the providers in some slots, one after another: the slots that
had their turn, and what is declared in the end.  After a panic no other
provider has its turn. -/
def turns (providers : Providers) :
    List Slot → Capabilities → List Slot × Except Panic Capabilities
  | [], declared => ([], .ok declared)
  | slot :: rest, declared =>
      match providers.declare slot declared with
      | .error panic => ([slot], .error panic)
      | .ok next =>
          let later := providers.turns rest next
          (slot :: later.1, later.2)

/-- The turns of all providers. -/
def declaration (providers : Providers) : List Slot × Except Panic Capabilities :=
  providers.turns Slot.all Capabilities.initial

/-- The empty answer of a method. -/
def emptyAnswer : (method : Method) → method.Answer
  | .diagnostics => []
  | .hover => none
  | .implementations => []
  | .signatureHelp => none
  | .definitions => []
  | .references => []
  | .completions => []
  | .canFormat => true
  | .formatting => []
  | .foldingRanges => []
  | .semanticTokens => { data := [] }
  | .prepareRename => none
  | .rename => none
  | .documentSymbols => []
  | .prepareTypeHierarchy => []
  | .subtypes => []
  | .supertypes => []
  | .inlayHints => []
  | .codeActions => []
  | .selectionRanges => []

/-- Providers that declare nothing and answer every call with an empty
result. -/
def silent : Providers where
  answer method _ := .ok (emptyAnswer method)
  declare _ capabilities := .ok capabilities

/-- The providers as the server prints them. -/
def describe (_ : Providers) : String := Text.openRecord "Providers" []

end Providers

end LanguageServer
