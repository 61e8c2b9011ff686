import LanguageServer.Configuration
import LanguageServer.Table
import LanguageServer.Text.LineIndex
import LanguageServer.Uri

namespace LanguageServer

/-!
Opened documents.  A document is an immutable snapshot: an edit does not change
it but replaces it.  The language identifier that a client sends with a text
chooses the kind of the document.  Typed sources carry an analysis context;
product and module definitions do not.
-/

/-- The kinds of documents the server accepts. -/
inductive DocumentKind where
  | productDefinition
  | moduleDefinition
  | typedSource
  deriving DecidableEq, Repr, Inhabited

namespace DocumentKind

/-- The language identifier of a kind. -/
def languageId : DocumentKind → String
  | .productDefinition => "product.def"
  | .moduleDefinition => "module.def"
  | .typedSource => "magik"

/-- The name of a kind. -/
def name : DocumentKind → String
  | .productDefinition => "ProductDefinition"
  | .moduleDefinition => "ModuleDefinition"
  | .typedSource => "TypedSource"

/-- All kinds. -/
def all : List DocumentKind := [.productDefinition, .moduleDefinition, .typedSource]

/-- The kind with a language identifier, compared exactly. -/
def ofLanguageId? (language : String) : Option DocumentKind :=
  all.find? fun kind => kind.languageId = language

/-- The kind with a name. -/
def ofName? (name : String) : Option DocumentKind :=
  all.find? fun kind => kind.name = name

theorem ofLanguageId?_languageId (kind : DocumentKind) :
    ofLanguageId? kind.languageId = some kind := by
  cases kind <;> decide

theorem languageId_of_ofLanguageId? {language : String} {kind : DocumentKind}
    (found : ofLanguageId? language = some kind) : kind.languageId = language := by
  have satisfied := List.find?_some found
  simpa using satisfied

end DocumentKind

/-- The definitions that documents share: none, or those kept under a name. -/
inductive Definitions where
  | empty
  | named (name : String)
  deriving DecidableEq, Repr, Inhabited

/-- What every document has. -/
structure SourceFile where
  uri : Uri
  text : String
  definitions : Definitions
  deriving DecidableEq

/-- What the analysis of a typed source starts from. -/
structure AnalysisContext where
  configuration : AnalysisConfiguration
  lineIndex : LineIndex
  definitions : Definitions
  deriving DecidableEq

/-- A typed source with its analysis context. -/
structure TypedFile where
  source : SourceFile
  context : AnalysisContext
  deriving DecidableEq

/-- An opened document. -/
inductive Document where
  | productDefinition (source : SourceFile)
  | moduleDefinition (source : SourceFile)
  | typedSource (file : TypedFile)
  deriving DecidableEq

namespace SourceFile

/-- The source as the server prints it, without its text. -/
def describe (source : SourceFile) : String :=
  Text.openRecord "SourceFile"
    [("uri", Text.quoted source.uri.text),
     ("text_len", toString (Text.byteLength source.text.toList))]

end SourceFile

namespace TypedFile

/-- The identity of the document. -/
def uri (file : TypedFile) : Uri := file.source.uri

/-- The text of the document. -/
def text (file : TypedFile) : String := file.source.text

/-- The position of a byte offset of the text. -/
def position? (file : TypedFile) (offset : Nat) : Option Position :=
  file.context.lineIndex.position? file.text offset

/-- The byte offset of a position of the text. -/
def offset? (file : TypedFile) (position : Position) : Option Nat :=
  file.context.lineIndex.offset? file.text position

/-- The file as the server prints it. -/
def describe (file : TypedFile) : String :=
  Text.record "MagikTypedFile"
    [("source", file.source.describe),
     ("context",
       Text.openRecord "AnalysisContext"
         [("configuration", file.context.configuration.describe),
          ("line_count", toString file.context.lineIndex.lineCount)])]

end TypedFile

namespace Document

/-- The kind of a document. -/
def kind : Document → DocumentKind
  | .productDefinition _ => .productDefinition
  | .moduleDefinition _ => .moduleDefinition
  | .typedSource _ => .typedSource

/-- What the document has whatever its kind. -/
def source : Document → SourceFile
  | .productDefinition source => source
  | .moduleDefinition source => source
  | .typedSource file => file.source

/-- The identity of the document. -/
def uri (document : Document) : Uri := document.source.uri

/-- The text of the document. -/
def text (document : Document) : String := document.source.text

/-- The definitions the document shares. -/
def definitions (document : Document) : Definitions := document.source.definitions

/-- The typed file, if the document is one. -/
def typed? : Document → Option TypedFile
  | .typedSource file => some file
  | _ => none

theorem typed?_eq_some_iff {document : Document} {file : TypedFile} :
    document.typed? = some file ↔ document = .typedSource file := by
  cases document <;> simp [typed?]

/-- The document as the server prints it. -/
def describe : Document → String
  | .productDefinition source =>
      Text.wrapped "ProductDefinition"
        (Text.record "ProductDefFile" [("source", source.describe)])
  | .moduleDefinition source =>
      Text.wrapped "ModuleDefinition"
        (Text.record "ModuleDefFile" [("source", source.describe)])
  | .typedSource file => Text.wrapped "TypedSource" file.describe

end Document

/-! ## Building documents

The classifier holds what all new documents are built with: the shared definitions
and the current analysis configuration.  Changing the configuration affects
documents built afterwards and none built before. -/

/-- What new documents are built with. -/
structure Classifier where
  definitions : Definitions := .empty
  configuration : AnalysisConfiguration := {}
  deriving DecidableEq

namespace Classifier

/-- The classifier with another analysis configuration. -/
def configure (classifier : Classifier) (configuration : AnalysisConfiguration) : Classifier :=
  { classifier with configuration }

/-- Builds a document of a given kind. -/
def build (classifier : Classifier) (kind : DocumentKind) (uri : Uri) (text : String) :
    Document :=
  let source : SourceFile := ⟨uri, text, classifier.definitions⟩
  match kind with
  | .productDefinition => .productDefinition source
  | .moduleDefinition => .moduleDefinition source
  | .typedSource =>
      .typedSource
        ⟨source,
          ⟨classifier.configuration, LineIndex.ofText text, classifier.definitions⟩⟩

/-- Builds a document of the kind that a language identifier names; there is
none when no kind has that identifier. -/
def classify? (classifier : Classifier) (language : String) (uri : Uri) (text : String) :
    Option Document :=
  (DocumentKind.ofLanguageId? language).map fun kind => classifier.build kind uri text

/-- The classifier as the server prints it. -/
def describe (classifier : Classifier) : String :=
  Text.openRecord "ContentClassifier" [("analysis", classifier.configuration.describe)]

@[simp] theorem kind_build (classifier : Classifier) (kind : DocumentKind) (uri : Uri)
    (text : String) : (classifier.build kind uri text).kind = kind := by
  cases kind <;> rfl

@[simp] theorem uri_build (classifier : Classifier) (kind : DocumentKind) (uri : Uri)
    (text : String) : (classifier.build kind uri text).uri = uri := by
  cases kind <;> rfl

@[simp] theorem text_build (classifier : Classifier) (kind : DocumentKind) (uri : Uri)
    (text : String) : (classifier.build kind uri text).text = text := by
  cases kind <;> rfl

@[simp] theorem definitions_build (classifier : Classifier) (kind : DocumentKind) (uri : Uri)
    (text : String) :
    (classifier.build kind uri text).definitions = classifier.definitions := by
  cases kind <;> rfl

end Classifier

/-! ## The set of open documents

There is at most one document for each identifier.  Documents are values: one that
was taken out of the set, or replaced in it, stays as it was.  The set is used by
calls, and each call that stores or drops a document gives the one that was there
before. -/

/-- The open documents by identifier. -/
abbrev DocumentSet := Table Uri Document

namespace DocumentSet

/-- A call on the set. -/
inductive Call where
  | put (uri : Uri) (document : Document)
  | get (uri : Uri)
  | remove (uri : Uri)
  | contains (uri : Uri)

/-- What a call gives back. -/
inductive Reply where
  | document (found : Option Document)
  | presence (present : Bool)

/-- Performs a call. -/
def perform (documents : DocumentSet) : Call → DocumentSet × Reply
  | .put uri document =>
      let exchanged := documents.exchange uri document
      (exchanged.2, .document exchanged.1)
  | .get uri => (documents, .document (documents.get? uri))
  | .remove uri =>
      let taken := documents.takeOut uri
      (taken.2, .document taken.1)
  | .contains uri => (documents, .presence (documents.contains uri))

/-- Performs calls one after another. -/
def performAll (documents : DocumentSet) : List Call → DocumentSet × List Reply
  | [] => (documents, [])
  | first :: rest =>
      let performed := perform documents first
      let others := performAll performed.1 rest
      (others.1, performed.2 :: others.2)

/-- The set as the server prints it. -/
def describe (documents : DocumentSet) : String :=
  let shown := documents.entries.map fun entry => entry.1.text ++ ": " ++ entry.2.describe
  Text.record "DocumentStore" [("documents", "\x7b" ++ ", ".intercalate shown ++ "\x7d")]

end DocumentSet

end LanguageServer
