import LanguageServer.Wire.Shape.Item

namespace LanguageServer
namespace Wire
namespace Shape

/-!
The shape of what a client says it can do.  The sections and their parts are
records; nearly all of their fields are optional.
-/

/-- Optional truth values. -/
private def flags (keys : List String) : List Field := keys.map (Field.optional · bool)

/-- A capability that can be registered at any time. -/
def dynamic : Shape := record (flags ["dynamicRegistration"])

/-- A capability whose results can be refreshed at the server's request. -/
def refreshing : Shape := record (flags ["refreshSupport"])

/-- The properties of an item that may be filled in later. -/
def resolving : Shape := record [.required "properties" (list text)]

/-- A list of the known numbers of a kind. -/
def knownNumbers : Shape := record [.optional "valueSet" (list int32)]

/-- A list of the numbers in use, which must be given. -/
def usedNumbers : Shape := record [.required "valueSet" (list int32)]

/-- The known tags: a list, or just whether there are any. -/
def tagSupport : Field := .defaulted "tagSupport" (nullable (either bool usedNumbers))

/-! ## The workspace -/

def workspaceEditing : Shape :=
  record
    [.optional "documentChanges" bool,
     .optional "resourceOperations" (list (name ["create", "rename", "delete"])),
     .optional "failureHandling"
        (name ["abort", "transactional", "textOnlyTransactional", "undo"]),
     .optional "normalizesLineEndings" bool,
     .optional "changeAnnotationSupport" (record (flags ["groupsOnLabel"]))]

def workspaceCapabilities : Shape :=
  record
    [.optional "applyEdit" bool,
     .optional "workspaceEdit" workspaceEditing,
     .optional "didChangeConfiguration" dynamic,
     .optional "didChangeWatchedFiles"
        (record (flags ["dynamicRegistration", "relativePatternSupport"])),
     .optional "symbol"
        (record
          [.optional "dynamicRegistration" bool, .optional "symbolKind" knownNumbers,
           tagSupport, .optional "resolveSupport" resolving]),
     .optional "executeCommand" dynamic,
     .optional "workspaceFolders" bool,
     .optional "configuration" bool,
     .optional "semanticTokens" refreshing,
     .optional "codeLens" refreshing,
     .optional "fileOperations"
        (record
          (flags ["dynamicRegistration", "didCreate", "willCreate", "didRename", "willRename",
                  "didDelete", "willDelete"])),
     .optional "inlineValue" refreshing,
     .optional "inlayHint" refreshing,
     .optional "diagnostics" refreshing]

/-! ## Text documents -/

def completionItemCapabilities : Shape :=
  record
    [.optional "snippetSupport" bool, .optional "commitCharactersSupport" bool,
     .optional "documentationFormat" (list markupKind), .optional "deprecatedSupport" bool,
     .optional "preselectSupport" bool, tagSupport, .optional "insertReplaceSupport" bool,
     .optional "resolveSupport" resolving,
     .optional "insertTextModeSupport" usedNumbers,
     .optional "labelDetailsSupport" bool]

def completionCapabilities : Shape :=
  record
    [.optional "dynamicRegistration" bool,
     .optional "completionItem" completionItemCapabilities,
     .optional "completionItemKind" knownNumbers, .optional "contextSupport" bool,
     .optional "insertTextMode" int32,
     .optional "completionList" (record [.optional "itemDefaults" (list text)])]

def signatureHelpCapabilities : Shape :=
  record
    [.optional "dynamicRegistration" bool,
     .optional "signatureInformation"
        (record
          [.optional "documentationFormat" (list markupKind),
           .optional "parameterInformation" (record (flags ["labelOffsetSupport"])),
           .optional "activeParameterSupport" bool]),
     .optional "contextSupport" bool]

def codeActionCapabilities : Shape :=
  record
    [.optional "dynamicRegistration" bool,
     .optional "codeActionLiteralSupport"
        (record
          [.required "codeActionKind" (record [.required "valueSet" (list text)])]),
     .optional "isPreferredSupport" bool, .optional "disabledSupport" bool,
     .optional "dataSupport" bool, .optional "resolveSupport" resolving,
     .optional "honorsChangeAnnotations" bool]

def foldingRangeCapabilities : Shape :=
  record
    [.optional "dynamicRegistration" bool, .optional "rangeLimit" uint32,
     .optional "lineFoldingOnly" bool,
     .optional "foldingRangeKind"
        (record [.optional "valueSet" (list (name ["comment", "imports", "region"]))]),
     .optional "foldingRange" (record (flags ["collapsedText"]))]

def semanticTokensCapabilities : Shape :=
  record
    [.optional "dynamicRegistration" bool,
     .required "requests"
        (record
          [.optional "range" bool,
           .optional "full" (either bool (keyed [.optional "delta" bool]))]),
     .required "tokenTypes" (list text), .required "tokenModifiers" (list text),
     .required "formats" (list text), .optional "overlappingTokenSupport" bool,
     .optional "multilineTokenSupport" bool, .optional "serverCancelSupport" bool,
     .optional "augmentsSyntaxTokens" bool]

/-- Going to another place, which may be described in detail. -/
def going : Shape := record (flags ["dynamicRegistration", "linkSupport"])

def documentCapabilities : Shape :=
  record
    [.optional "synchronization"
        (record (flags ["dynamicRegistration", "willSave", "willSaveWaitUntil", "didSave"])),
     .optional "completion" completionCapabilities,
     .optional "hover"
        (record
          [.optional "dynamicRegistration" bool, .optional "contentFormat" (list markupKind)]),
     .optional "signatureHelp" signatureHelpCapabilities,
     .optional "references" dynamic,
     .optional "documentHighlight" dynamic,
     .optional "documentSymbol"
        (record
          [.optional "dynamicRegistration" bool, .optional "symbolKind" knownNumbers,
           .optional "hierarchicalDocumentSymbolSupport" bool, tagSupport,
           .optional "labelSupport" bool]),
     .optional "formatting" dynamic,
     .optional "rangeFormatting" dynamic,
     .optional "onTypeFormatting" dynamic,
     .optional "declaration" going,
     .optional "definition" going,
     .optional "typeDefinition" going,
     .optional "implementation" going,
     .optional "codeAction" codeActionCapabilities,
     .optional "codeLens" dynamic,
     .optional "documentLink" (record (flags ["dynamicRegistration", "tooltipSupport"])),
     .optional "colorProvider" dynamic,
     .optional "rename"
        (record
          [.optional "dynamicRegistration" bool, .optional "prepareSupport" bool,
           .optional "prepareSupportDefaultBehavior" int32,
           .optional "honorsChangeAnnotations" bool]),
     .optional "publishDiagnostics"
        (record
          [.optional "relatedInformation" bool, tagSupport, .optional "versionSupport" bool,
           .optional "codeDescriptionSupport" bool, .optional "dataSupport" bool]),
     .optional "foldingRange" foldingRangeCapabilities,
     .optional "selectionRange" dynamic,
     .optional "linkedEditingRange" dynamic,
     .optional "callHierarchy" dynamic,
     .optional "semanticTokens" semanticTokensCapabilities,
     .optional "moniker" dynamic,
     .optional "typeHierarchy" dynamic,
     .optional "inlineValue" dynamic,
     .optional "inlayHint"
        (record
          [.optional "dynamicRegistration" bool, .optional "resolveSupport" resolving]),
     .optional "diagnostic"
        (record
          [.optional "dynamicRegistration" bool, .optional "relatedDocumentSupport" bool,
           .optional "relatedInformation" bool, .optional "tagSupport" usedNumbers,
           .optional "codeDescriptionSupport" bool, .optional "dataSupport" bool]),
     .optional "inlineCompletion" dynamic]

/-! ## Notebooks, windows and the client as a whole -/

def notebookCapabilities : Shape :=
  record
    [.required "synchronization"
        (record (flags ["dynamicRegistration", "executionSummaryReport"]))]

def windowCapabilities : Shape :=
  record
    [.optional "workDoneProgress" bool,
     .optional "showMessage"
        (record
          [.optional "messageActionItem" (record (flags ["additionalPropertiesSupport"]))]),
     .optional "showDocument" (record [.required "support" bool])]

def generalCapabilities : Shape :=
  record
    [.optional "regularExpressions"
        (record [.required "engine" text, .optional "version" text]),
     .optional "markdown"
        (record
          [.required "parser" text, .optional "version" text,
           .optional "allowedTags" (list text)]),
     .optional "staleRequestSupport"
        (record
          [.required "cancel" bool, .required "retryOnContentModified" (list text)]),
     .optional "positionEncodings" (list text)]

def clientCapabilities : Shape :=
  record
    [.optional "workspace" workspaceCapabilities,
     .optional "textDocument" documentCapabilities,
     .optional "notebookDocument" notebookCapabilities,
     .optional "window" windowCapabilities,
     .optional "general" generalCapabilities,
     .optional "offsetEncoding" (list text),
     .optional "experimental" anything]

end Shape
end Wire
end LanguageServer
