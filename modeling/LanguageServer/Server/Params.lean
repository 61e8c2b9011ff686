import LanguageServer.Server.Message
import LanguageServer.Session
import LanguageServer.Wire.Shape.Client

namespace LanguageServer
namespace Params

/-!
Parameters of messages.  Each method has a record of parameters; a message
whose parameters do not have this form is refused, and fields that the record
does not name are ignored.  Most requests may carry tokens under which
progress and partial results would be reported; a token is a number or a text.
-/

open Json (required optional)
open Wire (Shape)

/-- The parameters as an object, after a look at its tokens. -/
def withTokens (keys : List String) (params : Json) : Option Json.Entries := do
  let entries ← params.entries?
  guard (keys.all fun key => (optional entries key Wire.Mark.ofJson?).isSome)
  return entries

/-- Parameters of a request that can report progress. -/
def progressing : Json → Option Json.Entries := withTokens ["workDoneToken"]

/-- Parameters of a request that can also report partial results. -/
def streaming : Json → Option Json.Entries :=
  withTokens ["workDoneToken", "partialResultToken"]

/-- The identifier of the document that parameters name. -/
def target (entries : Json.Entries) : Option Uri :=
  required entries "textDocument" fun document => do
    required (← document.fixed? ["uri"]) "uri" Wire.uri?

/-- The position that parameters name. -/
def place (entries : Json.Entries) : Option Wire.Position :=
  required entries "position" Wire.Position.ofJson?

/-- The range that parameters name. -/
def span (entries : Json.Entries) : Option Wire.Range :=
  required entries "range" Wire.Range.ofJson?

/-! ## Notifications -/

/-- A text document is opened. -/
def didOpen (params : Json) : Option Step := do
  let entries ← params.fixed? ["textDocument"]
  required entries "textDocument" fun document => do
    let fields ← document.fixed? ["uri", "languageId", "version", "text"]
    let uri ← required fields "uri" Wire.uri?
    let language ← required fields "languageId" Json.text?
    let _version ← required fields "version" Json.int32?
    return .openText uri language (← required fields "text" Json.text?)

/-- A text document is changed. -/
def didChange (params : Json) : Option Step := do
  let entries ← params.fixed? ["textDocument", "contentChanges"]
  let uri ← required entries "textDocument" fun document => do
    let fields ← document.fixed? ["uri", "version"]
    let _version ← required fields "version" Json.int32?
    required fields "uri" Wire.uri?
  return .change uri
    (← required entries "contentChanges" (Json.listOf? Wire.ContentChange.ofJson?))

/-- A text document is closed. -/
def didClose (params : Json) : Option Step := do
  return .close (← target (← params.fixed? ["textDocument"]))

/-- A text document is saved. -/
def didSave (params : Json) : Option Step := do
  let entries ← params.fixed? ["textDocument", "text"]
  let _text ← optional entries "text" Json.text?
  return .save (← target entries)

/-! ## Queries -/

def hover (params : Json) : Option Query := do
  let entries ← progressing params
  return .document (← target entries) (.hover (← place entries))

def definition (params : Json) : Option Query := do
  let entries ← streaming params
  return .document (← target entries) (.definition (← place entries))

def references (params : Json) : Option Query := do
  let entries ← streaming params
  let _context ← required entries "context" Shape.referenceContext.check
  return .document (← target entries) (.references (← place entries))

def foldingRange (params : Json) : Option Query := do
  return .document (← target (← streaming params)) .foldingRange

def semanticTokensFull (params : Json) : Option Query := do
  return .document (← target (← streaming params)) .semanticTokensFull

def implementation (params : Json) : Option Query := do
  let entries ← streaming params
  return .source (← target entries) (.implementation (← place entries))

def signatureHelp (params : Json) : Option Query := do
  let entries ← progressing params
  let _context ← optional entries "context" Shape.signatureContext.check
  return .source (← target entries) (.signatureHelp (← place entries))

def completion (params : Json) : Option Query := do
  let entries ← streaming params
  let _context ← optional entries "context" Shape.completionContext.check
  return .source (← target entries) (.completion (← place entries))

def formatting (params : Json) : Option Query := do
  let entries ← progressing params
  return .source (← target entries)
    (.formatting (← required entries "options" Wire.FormattingOptions.ofJson?))

def prepareRename (params : Json) : Option Query := do
  let entries ← params.fixed? ["textDocument", "position"]
  return .source (← target entries) (.prepareRename (← place entries))

def rename (params : Json) : Option Query := do
  let entries ← progressing params
  return .source (← target entries)
    (.rename (← place entries) (← required entries "newName" Json.text?))

def documentSymbol (params : Json) : Option Query := do
  return .source (← target (← streaming params)) .documentSymbol

def selectionRange (params : Json) : Option Query := do
  let entries ← streaming params
  return .source (← target entries)
    (.selectionRange (← required entries "positions" (Json.listOf? Wire.Position.ofJson?)))

def prepareTypeHierarchy (params : Json) : Option Query := do
  let entries ← progressing params
  return .source (← target entries) (.prepareTypeHierarchy (← place entries))

def inlayHint (params : Json) : Option Query := do
  let entries ← progressing params
  return .source (← target entries) (.inlayHint (← span entries))

def codeAction (params : Json) : Option Query := do
  let entries ← streaming params
  return .source (← target entries)
    (.codeAction (← span entries)
      (← required entries "context" Wire.CodeActionContext.ofJson?))

/-- The type whose relatives are asked for. -/
def item (params : Json) : Option Wire.TypeHierarchyItem := do
  required (← streaming params) "item" Wire.TypeHierarchyItem.ofJson?

def subtypes (params : Json) : Option Query := (item params).map .subtypes

def supertypes (params : Json) : Option Query := (item params).map .supertypes

/-! ## Start-up -/

/-- The first request, apart from the options of the client. -/
def startUpShape : Shape :=
  .keyed
    [.optional "workDoneToken" (.readBy Wire.Mark.ofJson?), .optional "processId" .uint32,
     .optional "rootPath" .text, .optional "rootUri" .uri,
     .required "capabilities" .clientCapabilities,
     .optional "trace" (.name ["off", "messages", "verbose"]),
     .optional "workspaceFolders"
        (.list (.record [.required "uri" .uri, .required "name" .text])),
     .optional "clientInfo" (.record [.required "name" .text, .optional "version" .text]),
     .optional "locale" .text]

/-- Reads the parameters of the first request and gives the options in them. -/
def startUp (params : Json) : Option (Option Json) := do
  startUpShape.check params
  optional (← params.entries?) "initializationOptions" some

/-- The request to be cancelled. -/
def cancel (params : Json) : Option RequestId := do
  match ← required (← params.fixed? ["id"]) "id" Wire.Mark.ofJson? with
  | .number value => return .number value
  | .text content => return .text content

/-- Parameters without fields. -/
def initialized (params : Json) : Option Unit := (params.fixed? []).map fun _ => ()

end Params
end LanguageServer
