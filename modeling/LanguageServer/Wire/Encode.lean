import LanguageServer.Wire.Feature

namespace LanguageServer
namespace Wire

/-!
Wire values as JSON.  Fields without a value are left out.
-/

/-- A 32-bit word as JSON. -/
def word (value : UInt32) : Json := .nat value.toNat

/-- An identifier as JSON. -/
def uriJson (uri : Uri) : Json := .str uri.text

def Position.toJson (position : Position) : Json :=
  .record [("line", word position.line), ("character", word position.character)]

def Range.toJson (range : Range) : Json :=
  .record [("start", range.start.toJson), ("end", range.stop.toJson)]

def Location.toJson (location : Location) : Json :=
  .record [("uri", uriJson location.uri), ("range", location.range.toJson)]

def TextEdit.toJson (edit : TextEdit) : Json :=
  .record [("range", edit.range.toJson), ("newText", .str edit.newText)]

def WorkspaceEdit.toJson (edit : WorkspaceEdit) : Json :=
  .record
    [("changes",
      .record (edit.changes.map fun change =>
        (change.1.text, Json.list TextEdit.toJson change.2)))]

def CodeAction.toJson (action : CodeAction) : Json :=
  .record
    [("title", .str action.title), ("kind", .str "quickfix"), ("edit", action.edit.toJson)]

def Mark.toJson : Mark → Json
  | .number value => .int value
  | .text content => .str content

def RelatedInformation.toJson (information : RelatedInformation) : Json :=
  .record
    [("location", information.location.toJson), ("message", .str information.message)]

def Diagnostic.toJson (diagnostic : Diagnostic) : Json :=
  .sparse
    [("range", some diagnostic.range.toJson),
     ("severity", diagnostic.severity.map Json.int),
     ("code", diagnostic.code.map Mark.toJson),
     ("codeDescription",
       diagnostic.codeDescription.map fun target => .record [("href", uriJson target)]),
     ("source", diagnostic.source.map Json.str),
     ("message", some (.str diagnostic.message)),
     ("relatedInformation",
       diagnostic.relatedInformation.map (Json.list RelatedInformation.toJson)),
     ("tags", diagnostic.tags.map (Json.list Json.int)),
     ("data", diagnostic.data)]

def Hover.toJson (hover : Hover) : Json :=
  .sparse
    [("contents", some (.str hover.contents)), ("range", hover.range.map Range.toJson)]

def SignatureHelp.toJson (help : SignatureHelp) : Json :=
  .sparse
    [("signatures",
       some (Json.list (fun label => .record [("label", .str label)]) help.signatures)),
     ("activeSignature", help.activeSignature.map word),
     ("activeParameter", help.activeParameter.map word)]

def CompletionItem.toJson (item : CompletionItem) : Json :=
  .sparse [("label", some (.str item.label)), ("detail", item.detail.map Json.str)]

def FoldingRange.toJson (range : FoldingRange) : Json :=
  .record [("startLine", word range.startLine), ("endLine", word range.endLine)]

def SemanticTokens.toJson (tokens : SemanticTokens) : Json :=
  .sparse
    [("resultId", tokens.resultId.map Json.str), ("data", some (Json.list word tokens.data))]

def DocumentSymbol.toJson (symbol : DocumentSymbol) : Json :=
  .record
    [("name", .str symbol.name), ("kind", .int symbol.kind),
     ("range", symbol.range.toJson), ("selectionRange", symbol.selectionRange.toJson)]

def TypeHierarchyItem.toJson (item : TypeHierarchyItem) : Json :=
  .sparse
    [("name", some (.str item.name)), ("kind", some (.int item.kind)),
     ("tags", item.tags.map Json.int), ("detail", item.detail.map Json.str),
     ("uri", some (uriJson item.uri)), ("range", some item.range.toJson),
     ("selectionRange", some item.selectionRange.toJson), ("data", item.data)]

def InlayHint.toJson (hint : InlayHint) : Json :=
  .record [("position", hint.position.toJson), ("label", .str hint.label)]

/-- A range inside the ranges around it, each the parent of the one before. -/
def nested (range : Range) : List Range → Json
  | [] => .record [("range", range.toJson)]
  | parent :: others => .record [("range", range.toJson), ("parent", nested parent others)]

def SelectionRange.toJson (selection : SelectionRange) : Json :=
  nested selection.range selection.enclosing

end Wire
end LanguageServer
