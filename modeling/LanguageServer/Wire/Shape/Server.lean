import LanguageServer.Wire.Shape.Basic

namespace LanguageServer
namespace Wire
namespace Shape

/-!
The shape of what a server declares to a client.  Most features are declared
by a truth value or by their options.  Options that take in the option to
report progress are given by key alone.
-/

/-! ## Parts that several features share -/

/-- Whether the progress of a feature is reported. -/
def progress : Field := .optional "workDoneProgress" bool

/-- Options that are about progress alone. -/
def progressOptions : Shape := keyed [progress]

/-- A feature that is there or not, or has options. -/
def offered (options : Shape) : Shape := either bool options

/-- A list of characters, each one a text. -/
def characters (key : String) : Field := .optional key (list text)

/-- Whether items of a feature can be completed later. -/
def resolution : Field := .optional "resolveProvider" bool

/-- Documents, told by their language, by their scheme or by a pattern. -/
def documentFilter : Shape :=
  record [.optional "language" text, .optional "scheme" text, .optional "pattern" text]

/-- The documents that a feature is for; null leaves it to the client. -/
def selector : Field := .explicit "documentSelector" (list documentFilter)

/-- The identifier of a registration. -/
def registrationId : Field := .optional "id" text

/-- A feature registered for certain documents. -/
def registration : Shape := record [selector, registrationId]

/-! ## Documents -/

def saving : Shape := either bool (record [.optional "includeText" bool])

/-- How documents are synchronised: the kind of synchronisation or all of its
options. -/
def synchronization : Shape :=
  either int32
    (record
      [.optional "openClose" bool, .optional "change" int32, .optional "willSave" bool,
       .optional "willSaveWaitUntil" bool, .optional "save" saving])

/-- Notebooks, told by at least one of their type, their scheme and a
pattern. -/
def notebookFilter : Shape :=
  either
    (keyed [.required "notebook_type" text, .optional "scheme" text, .optional "pattern" text])
    (either
      (keyed [.optional "notebook_type" text, .required "scheme" text, .optional "pattern" text])
      (keyed [.optional "notebook_type" text, .optional "scheme" text, .required "pattern" text]))

def notebook : Shape := either text notebookFilter

def cells : Shape := list (record [.required "language" text])

/-- Notebooks with some of their cells, or cells of some notebooks. -/
def notebookSelector : Shape :=
  either (keyed [.required "notebook" notebook, .optional "cells" cells])
    (keyed [.optional "notebook" notebook, .required "cells" cells])

def notebookSynchronization : Shape :=
  let fields : List Field :=
    [.required "notebookSelector" (list notebookSelector), .optional "save" bool]
  either (record fields) (record (fields ++ [registrationId]))

/-! ## Features -/

def completionOptions : Shape :=
  keyed
    [resolution, characters "triggerCharacters", characters "allCommitCharacters", progress,
     .optional "completionItem" (record [.optional "labelDetailsSupport" bool])]

def signatureHelpOptions : Shape :=
  keyed [characters "triggerCharacters", characters "retriggerCharacters", progress]

def codeActionOptions : Shape :=
  keyed [.optional "codeActionKinds" (list text), progress, resolution]

def onTypeFormattingOptions : Shape :=
  record [.required "firstTriggerCharacter" text, characters "moreTriggerCharacter"]

def semanticTokensOptions : Shape :=
  keyed
    [progress,
     .required "legend"
        (record [.required "tokenTypes" (list text), .required "tokenModifiers" (list text)]),
     .optional "range" bool,
     .optional "full" (either bool (keyed [.optional "delta" bool]))]

def diagnosticOptions : Shape :=
  keyed
    [.optional "identifier" text, .required "interFileDependencies" bool,
     .required "workspaceDiagnostics" bool, progress]

/-- A feature without options of its own, which may be registered. -/
def plainOrRegistered : Shape := either (record []) registration

/-! ## The workspace -/

def filePattern : Shape :=
  record
    [.required "glob" text, .optional "matches" (name ["file", "folder"]),
     .optional "options" (record [.optional "ignoreCase" bool])]

/-- The files that a server is told about. -/
def fileInterest : Shape :=
  record
    [.required "filters"
        (list (record [.explicit "scheme" text, .required "pattern" filePattern]))]

def workspaceDeclaration : Shape :=
  record
    [.optional "workspaceFolders"
        (record
          [.optional "supported" bool, .optional "changeNotifications" (either bool text)]),
     .optional "fileOperations"
        (record
          (["didCreate", "willCreate", "didRename", "willRename", "didDelete", "willDelete"].map
            (Field.optional · fileInterest)))]

/-! ## The declaration as a whole -/

/-- The fields of a declaration. -/
def declarationFields : List Field :=
  [.optional "positionEncoding" text,
   .optional "textDocumentSync" synchronization,
   .optional "notebookDocumentSync" notebookSynchronization,
   .optional "selectionRangeProvider" (offered progressOptions),
   .optional "hoverProvider" (offered progressOptions),
   .optional "completionProvider" completionOptions,
   .optional "signatureHelpProvider" signatureHelpOptions,
   .optional "definitionProvider" (offered progressOptions),
   .optional "typeDefinitionProvider" (offered registration),
   .optional "implementationProvider" (offered registration),
   .optional "referencesProvider" (offered progressOptions),
   .optional "documentHighlightProvider" (offered progressOptions),
   .optional "documentSymbolProvider" (offered (keyed [.optional "label" text, progress])),
   .optional "workspaceSymbolProvider" (offered (keyed [progress, resolution])),
   .optional "codeActionProvider" (offered codeActionOptions),
   .optional "codeLensProvider" (record [resolution]),
   .optional "documentFormattingProvider" (offered progressOptions),
   .optional "documentRangeFormattingProvider" (offered progressOptions),
   .optional "documentOnTypeFormattingProvider" onTypeFormattingOptions,
   .optional "renameProvider" (offered (keyed [.optional "prepareProvider" bool, progress])),
   .optional "documentLinkProvider" (keyed [resolution, progress]),
   .optional "colorProvider" (offered plainOrRegistered),
   .optional "foldingRangeProvider" (offered plainOrRegistered),
   .optional "declarationProvider"
      (offered (either (keyed [progress, selector, registrationId]) progressOptions)),
   .optional "executeCommandProvider" (keyed [.required "commands" (list text), progress]),
   .optional "workspace" workspaceDeclaration,
   .optional "callHierarchyProvider" (offered progressOptions),
   .optional "semanticTokensProvider" semanticTokensOptions,
   .optional "monikerProvider" (offered progressOptions),
   .optional "linkedEditingRangeProvider" (offered progressOptions),
   .optional "inlineValueProvider" (offered progressOptions),
   .optional "inlayHintProvider" (offered (keyed [progress, resolution])),
   .optional "diagnosticProvider" diagnosticOptions,
   .optional "inlineCompletionProvider" (offered progressOptions),
   .optional "experimental" anything]

end Shape
end Wire
end LanguageServer
