import LanguageServer.Wire.Shape.Item

namespace LanguageServer
namespace Unserved

/-!
Requests of the protocol that are known but not served.  Their parameters have
to be well formed all the same, so that a client learns of a malformed request
before it learns that the method is not served.
-/

open Wire (Shape Field)

/-- A token under which progress would be reported. -/
def token : Shape := .readBy Wire.Mark.ofJson?

/-- Fields by which a request asks for reports on its progress. -/
def progress : List Field := [.optional "workDoneToken" token]

/-- Fields by which a request asks for partial results, too. -/
def streaming : List Field := progress ++ [.optional "partialResultToken" token]

/-- The field that names a document. -/
def target : Field := .required "textDocument" .document

/-- The field that names a position. -/
def place : Field := .required "position" .position

/-- The field that names a range. -/
def span : Field := .required "range" .range

/-- The field that says how to format. -/
def options : Field := .required "options" (.readBy Wire.FormattingOptions.ofJson?)

/-- A document as a whole. -/
def wholeDocument : Shape := .keyed ([target] ++ streaming)

/-- A position in a document, with partial results. -/
def positionStreaming : Shape := .keyed ([target, place] ++ streaming)

/-- A position in a document, answered at once. -/
def positionAtOnce : Shape := .keyed ([target, place] ++ progress)

/-- A symbol whose callers or callees are asked for. -/
def calls : Shape := .keyed ([.required "item" .callHierarchyItem] ++ streaming)

/-- Files that are about to be created, renamed or removed.  They are named by
texts that need not be identifiers. -/
def files (keys : List String) : Shape :=
  .record [.required "files" (.list (.record (keys.map (Field.required · .text))))]

/-- The methods, each with the shape of its parameters. -/
def methods : List (String × Shape) :=
  [("textDocument/willSaveWaitUntil", .record [target, .required "reason" .int32]),
   ("textDocument/declaration", positionStreaming),
   ("textDocument/typeDefinition", positionStreaming),
   ("textDocument/documentHighlight", positionStreaming),
   ("textDocument/moniker", positionStreaming),
   ("textDocument/linkedEditingRange", positionAtOnce),
   ("textDocument/prepareCallHierarchy", positionAtOnce),
   ("callHierarchy/incomingCalls", calls),
   ("callHierarchy/outgoingCalls", calls),
   ("textDocument/documentLink", wholeDocument),
   ("documentLink/resolve", .documentLink),
   ("textDocument/codeLens", wholeDocument),
   ("codeLens/resolve", .codeLens),
   ("textDocument/documentColor", wholeDocument),
   ("textDocument/colorPresentation",
      .keyed ([target, .required "color" .color, span] ++ streaming)),
   ("textDocument/diagnostic",
      .keyed
        ([target, .optional "identifier" .text, .optional "previousResultId" .text] ++
          streaming)),
   ("workspace/diagnostic",
      .keyed
        ([.optional "identifier" .text,
          .required "previousResultIds"
            (.list (.record [.required "uri" .uri, .required "value" .text]))] ++ streaming)),
   ("textDocument/semanticTokens/full/delta",
      .keyed ([target, .required "previousResultId" .text] ++ streaming)),
   ("textDocument/semanticTokens/range", .keyed ([target, span] ++ streaming)),
   ("textDocument/inlineValue",
      .keyed ([target, span, .required "context" .inlineValueContext] ++ progress)),
   ("inlayHint/resolve", .inlayHint),
   ("completionItem/resolve", .completionItem),
   ("codeAction/resolve", .codeAction),
   ("textDocument/rangeFormatting", .keyed ([target, span, options] ++ progress)),
   ("textDocument/onTypeFormatting", .keyed [target, place, .required "ch" .text, options]),
   ("workspace/symbol", .keyed ([.required "query" .text] ++ streaming)),
   ("workspaceSymbol/resolve", .workspaceSymbol),
   ("workspace/willCreateFiles", files ["uri"]),
   ("workspace/willRenameFiles", files ["oldUri", "newUri"]),
   ("workspace/willDeleteFiles", files ["uri"]),
   ("workspace/executeCommand",
      .keyed
        ([.required "command" .text, .defaulted "arguments" (.list .anything)] ++ progress))]

end Unserved
end LanguageServer
