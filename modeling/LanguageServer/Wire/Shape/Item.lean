import LanguageServer.Wire.Shape.Basic

namespace LanguageServer
namespace Wire
namespace Shape

/-!
Shapes of the items that clients hand back to a server: edits, actions,
completions, hints, links, symbols and help on signatures.
-/

/-! ## Coordinates -/

def position : Shape := readBy Position.ofJson?

def range : Shape := readBy Range.ofJson?

def location : Shape := readBy Location.ofJson?

def diagnostic : Shape := readBy Diagnostic.ofJson?

/-- The identifier of a document. -/
def document : Shape := record [.required "uri" uri]

/-! ## Texts for people -/

/-- How a text for people is marked up. -/
def markupKind : Shape := name ["plaintext", "markdown"]

/-- A text, or a text with its kind of markup. -/
def markup : Shape :=
  either text (record [.required "kind" markupKind, .required "value" text])

/-- A command of the client. -/
def command : Shape :=
  record
    [.required "title" text, .required "command" text, .optional "arguments" (list anything)]

/-! ## Edits -/

def textEdit : Shape := record [.required "range" range, .required "newText" text]

/-- Edits of one document.  An edit may name an annotation besides. -/
def documentEdit : Shape :=
  record
    [.required "textDocument"
        (record [.required "uri" uri, .optional "version" int32]),
     .required "edits" (list textEdit)]

/-- What happens to a file that is already there. -/
def overwriting : Shape :=
  record [.optional "overwrite" bool, .optional "ignoreIfExists" bool]

/-- How files are removed. -/
def removing : Shape :=
  record [.optional "recursive" bool, .optional "ignoreIfNotExists" bool]

/-- A file is created, renamed or removed. -/
def fileChange : Shape :=
  tagged "kind"
    [("create",
        [.required "uri" uri, .optional "options" overwriting, .optional "annotationId" text]),
     ("rename",
        [.required "oldUri" uri, .required "newUri" uri, .optional "options" overwriting,
         .optional "annotationId" text]),
     ("delete",
        [.required "uri" uri, .optional "options" removing, .optional "annotationId" text])]

/-- What a user is told about a change. -/
def annotation : Shape :=
  record
    [.required "label" text, .optional "needsConfirmation" bool, .optional "description" text]

/-- Changes to many documents and files. -/
def workspaceEdit : Shape :=
  record
    [.optional "changes" (mapping uri (list textEdit)),
     .optional "documentChanges" (list (either fileChange documentEdit)),
     .optional "changeAnnotations" (mapping text annotation)]

/-! ## Items -/

def codeAction : Shape :=
  record
    [.required "title" text, .optional "kind" text, .optional "diagnostics" (list diagnostic),
     .optional "edit" workspaceEdit, .optional "command" command, .optional "isPreferred" bool,
     .optional "disabled" (record [.required "reason" text]), .optional "data" anything]

/-- A text that takes the place of one range, or of either of two. -/
def completionEdit : Shape :=
  either textEdit
    (record [.required "newText" text, .required "insert" range, .required "replace" range])

def completionItem : Shape :=
  record
    [.required "label" text,
     .optional "labelDetails" (record [.optional "detail" text, .optional "description" text]),
     .optional "kind" int32, .optional "detail" text, .optional "documentation" markup,
     .optional "deprecated" bool, .optional "preselect" bool, .optional "sortText" text,
     .optional "filterText" text, .optional "insertText" text,
     .optional "insertTextFormat" int32, .optional "insertTextMode" int32,
     .optional "textEdit" completionEdit, .optional "additionalTextEdits" (list textEdit),
     .optional "command" command, .optional "commitCharacters" (list text),
     .optional "data" anything, .optional "tags" (list int32)]

/-- A part of the label of a hint. -/
def labelPart : Shape :=
  record
    [.required "value" text, .optional "tooltip" markup, .optional "location" location,
     .optional "command" command]

def inlayHint : Shape :=
  record
    [.required "position" position, .required "label" (either text (list labelPart)),
     .optional "kind" int32, .optional "textEdits" (list textEdit), .optional "tooltip" markup,
     .optional "paddingLeft" bool, .optional "paddingRight" bool, .optional "data" anything]

def documentLink : Shape :=
  record
    [.required "range" range, .optional "target" uri, .optional "tooltip" text,
     .optional "data" anything]

def codeLens : Shape :=
  record [.required "range" range, .optional "command" command, .optional "data" anything]

/-- A symbol, in a range of a document or in a document as a whole. -/
def workspaceSymbol : Shape :=
  record
    [.required "name" text, .required "kind" int32, .optional "tags" (list int32),
     .optional "containerName" text, .required "location" (either location document),
     .optional "data" anything]

def callHierarchyItem : Shape :=
  record
    [.required "name" text, .required "kind" int32, .optional "tags" (list int32),
     .optional "detail" text, .required "uri" uri, .required "range" range,
     .required "selectionRange" range, .optional "data" anything]

def color : Shape :=
  record
    [.required "red" number, .required "green" number, .required "blue" number,
     .required "alpha" number]

/-! ## Help on signatures -/

/-- A parameter, named by its text or by its place in the label of the
signature. -/
def parameter : Shape :=
  record
    [.required "label" (either text (pair uint32)), .optional "documentation" markup]

def signature : Shape :=
  record
    [.required "label" text, .optional "documentation" markup,
     .optional "parameters" (list parameter), .optional "activeParameter" uint32]

def signatureHelp : Shape :=
  record
    [.required "signatures" (list signature), .optional "activeSignature" uint32,
     .optional "activeParameter" uint32]

/-! ## Circumstances of a query -/

/-- What made a client ask for help on a signature. -/
def signatureContext : Shape :=
  record
    [.required "triggerKind" int32, .optional "triggerCharacter" text,
     .required "isRetrigger" bool, .optional "activeSignatureHelp" signatureHelp]

/-- What made a client ask for completions. -/
def completionContext : Shape :=
  record [.required "triggerKind" int32, .optional "triggerCharacter" text]

/-- Whether the declaration counts as a reference. -/
def referenceContext : Shape := record [.required "includeDeclaration" bool]

/-- Where a program has stopped. -/
def inlineValueContext : Shape :=
  record [.required "frameId" int32, .required "stoppedLocation" range]

end Shape
end Wire
end LanguageServer
