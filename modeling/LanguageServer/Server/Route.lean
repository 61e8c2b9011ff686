import LanguageServer.Server.Params
import LanguageServer.Server.Unserved

namespace LanguageServer

/-!
Methods of the protocol.  A route says what a method is and how its parameters
are read.
-/

/-- What a method is. -/
inductive Route where
  | startUp
  | initialized
  | shutdown
  | exit
  /-- Asks to stop a request. -/
  | cancel
  | notification (read : Json → Option Step)
  | request (read : Json → Option Query)
  /-- A notification that is accepted and has no effect. -/
  | ignored
  /-- A request that is refused once its parameters are known to be well
  formed. -/
  | unserved (shape : Wire.Shape)

namespace Route

/-- The methods that serve documents and queries. -/
def served : List (String × Route) :=
  [("textDocument/didOpen", .notification Params.didOpen),
   ("textDocument/didChange", .notification Params.didChange),
   ("textDocument/didClose", .notification Params.didClose),
   ("textDocument/didSave", .notification Params.didSave),
   ("textDocument/hover", .request Params.hover),
   ("textDocument/definition", .request Params.definition),
   ("textDocument/references", .request Params.references),
   ("textDocument/foldingRange", .request Params.foldingRange),
   ("textDocument/semanticTokens/full", .request Params.semanticTokensFull),
   ("textDocument/implementation", .request Params.implementation),
   ("textDocument/signatureHelp", .request Params.signatureHelp),
   ("textDocument/completion", .request Params.completion),
   ("textDocument/formatting", .request Params.formatting),
   ("textDocument/prepareRename", .request Params.prepareRename),
   ("textDocument/rename", .request Params.rename),
   ("textDocument/documentSymbol", .request Params.documentSymbol),
   ("textDocument/selectionRange", .request Params.selectionRange),
   ("textDocument/prepareTypeHierarchy", .request Params.prepareTypeHierarchy),
   ("textDocument/inlayHint", .request Params.inlayHint),
   ("textDocument/codeAction", .request Params.codeAction),
   ("typeHierarchy/subtypes", .request Params.subtypes),
   ("typeHierarchy/supertypes", .request Params.supertypes)]

/-- The methods of the life of a connection. -/
def connection : List (String × Route) :=
  [("initialize", .startUp), ("initialized", .initialized), ("shutdown", .shutdown),
   ("exit", .exit), ("$/cancelRequest", .cancel)]

/-- Notifications of the protocol that have no effect here. -/
def withoutEffect : List String :=
  ["textDocument/willSave", "workspace/didChangeConfiguration",
   "workspace/didChangeWorkspaceFolders", "workspace/didChangeWatchedFiles",
   "workspace/didCreateFiles", "workspace/didRenameFiles", "workspace/didDeleteFiles",
   "notebookDocument/didOpen", "notebookDocument/didChange", "notebookDocument/didSave",
   "notebookDocument/didClose"]

/-- All methods with their routes. -/
def all : List (String × Route) :=
  connection ++ served ++ withoutEffect.map (·, .ignored) ++
    Unserved.methods.map fun entry => (entry.1, .unserved entry.2)

/-- The route of a method. -/
def ofMethod? (method : String) : Option Route :=
  (all.find? fun entry => entry.1 = method).map Prod.snd

end Route
end LanguageServer
