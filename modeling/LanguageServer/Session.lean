import LanguageServer.Document
import LanguageServer.Job

namespace LanguageServer

/-!
Sessions.  A session holds the open documents, what new documents are built
with, two switches, and the queries in flight.  It advances by steps: documents
are opened, changed, closed and saved; the configuration is replaced; queries
are asked at once, or started and awaited later.

A query takes its snapshot when it is dispatched.  A query whose document is
not open, or not of a kind the inquiry is for, is answered at once with a
neutral value.  Every step reports its outcome, the provider calls it made and
the events it logged.

A worker may run from the dispatch on.  Its calls and events are reported all the
same by the step that takes its answer, and a query that is never awaited reports
none.  Its job holds all that a worker reads, and a provider always answers the
same way, so neither the answer nor the calls depend on when the worker ran.
-/

/-! ## Publishing diagnostics

When a typed source was stored its diagnostics are computed and published, unless
publication is switched off.  Definition files have no diagnostics.  Closing a
document always publishes the empty list, so that a client drops what it still
shows. -/

/-- The diagnostics of a document, replacing all earlier ones. -/
structure Publication where
  uri : Uri
  diagnostics : List Wire.Diagnostic

/-- Whether diagnostics are published. -/
structure Publisher where
  enabled : Bool := true
  deriving DecidableEq

namespace Publisher

/-- What is published for a document that was just stored. -/
def onStored (providers : Providers) (publisher : Publisher) (document : Document) :
    Report (Except Panic (Option Publication)) :=
  match document.typed? with
  | none => { result := .ok none }
  | some file =>
      if publisher.enabled then
        let computed := Report.call providers .diagnostics file
        match computed.result with
        | .error panic => { result := .error panic, calls := computed.calls }
        | .ok diagnostics =>
            { result := .ok (some ⟨document.uri, diagnostics⟩)
              calls := computed.calls
              log := [.diagnosticsComputed diagnostics.length document.uri] }
      else { result := .ok none, log := [.diagnosticsSkipped document.uri] }

/-- What is published for a document that was closed. -/
def onClosed (uri : Uri) : Publication := ⟨uri, []⟩

/-- The publisher as the server prints it. -/
def describe (publisher : Publisher) : String :=
  Text.openRecord "DiagnosticsPublisher" [("enabled", Text.flag publisher.enabled)]

end Publisher

/-- The publication as JSON. -/
def Publication.toJson (publication : Publication) : Json :=
  .record
    [("uri", .str publication.uri.text),
     ("diagnostics", Json.list Wire.Diagnostic.toJson publication.diagnostics)]

/-! ## Steps of a session -/

/-- A dispatched query: already answered, or a job for a worker. -/
inductive Pending where
  | ready (answer : Answer)
  | running (job : Job)

/-- The state of a session. -/
structure Session where
  documents : DocumentSet := Table.empty
  classifier : Classifier := {}
  publisher : Publisher := {}
  formattingEnabled : Bool := true
  inFlight : Table String Pending := Table.empty

/-- One step of a session. -/
inductive Step where
  | openText (uri : Uri) (language text : String)
  | change (uri : Uri) (changes : List Wire.ContentChange)
  | close (uri : Uri)
  | save (uri : Uri)
  | lookUp (uri : Uri)
  | configure (configuration : AnalysisConfiguration) (diagnostics : Bool)
  | setFormatting (enabled : Bool)
  | query (query : Query)
  | start (id : String) (query : Query)
  | await (id : String)

/-- What a step gives. -/
inductive Outcome where
  | published (publication : Option Publication)
  | found (document : Option Document)
  | done
  | answered (answer : Answer)
  | started (ready : Bool)
  | unsupportedLanguage (language : String)
  | workerFailed (failure : WorkerFailure)
  | panicked (panic : Panic)
  | notInFlight

namespace Outcome

/-- The outcome of publishing. -/
def ofPublished : Except Panic (Option Publication) → Outcome
  | .ok publication => .published publication
  | .error panic => .panicked panic

/-- The outcome of a job. -/
def ofJob : Except WorkerFailure Answer → Outcome
  | .ok answer => .answered answer
  | .error failure => .workerFailed failure

end Outcome

namespace Pending

/-- Whether no worker is needed. -/
def isReady : Pending → Bool
  | .ready _ => true
  | .running _ => false

/-- Waits for the answer.  The worker may have been running since the dispatch; what it
called and logged is reported here, with the answer. -/
def await (providers : Providers) : Pending → Report Outcome
  | .ready answer => { result := .answered answer }
  | .running job => (job.run providers).map Outcome.ofJob

end Pending

namespace Session

/-- Stores a document that was just built and publishes its diagnostics.  The
document is stored first, so a panic of the diagnostics finds it in place. -/
def store (providers : Providers) (session : Session) (uri : Uri) (document : Document) :
    Session × Report Outcome :=
  ({ session with documents := session.documents.put uri document },
    (session.publisher.onStored providers document).map Outcome.ofPublished)

/-- Opens a text under a language identifier.  An identifier without a kind
changes nothing; an open document is replaced. -/
def openText (providers : Providers) (session : Session) (uri : Uri)
    (language text : String) : Session × Report Outcome :=
  match session.classifier.classify? language uri text with
  | none =>
      (session, { result := .unsupportedLanguage language, log := [.noKind language] })
  | some document =>
      let stored := session.store providers uri document
      let replaced := if session.documents.contains uri then [LogEvent.reopened] else []
      (stored.1, stored.2.after (.opened uri document.kind :: replaced))

/-- Replaces the text of an open document by that of the first change.  The
kind stays; the analysis configuration is the current one. -/
def change (providers : Providers) (session : Session) (uri : Uri)
    (changes : List Wire.ContentChange) : Session × Report Outcome :=
  match changes with
  | [] => (session, { result := .published none, log := [.emptyChange uri] })
  | first :: _ =>
      match session.documents.get? uri with
      | none => (session, { result := .published none, log := [.changeNotOpen uri] })
      | some current =>
          session.store providers uri
            (session.classifier.build current.kind uri first.text)

/-- Closes a document. -/
def close (session : Session) (uri : Uri) : Session × Report Outcome :=
  let event :=
    match session.documents.get? uri with
    | none => LogEvent.closeNotOpen uri
    | some document => LogEvent.closed uri document.kind
  ({ session with documents := session.documents.remove uri },
    { result := .published (some (Publisher.onClosed uri)), log := [event] })

/-- Replaces the analysis configuration and the switch for diagnostics. -/
def configure (session : Session) (configuration : AnalysisConfiguration)
    (diagnostics : Bool) : Session × Report Outcome :=
  ({ session with
      classifier := session.classifier.configure configuration
      publisher := ⟨diagnostics⟩ },
    { result := .done, log := [.configurationReplaced configuration] })

/-- Dispatches a query: takes the snapshot, or answers neutrally. -/
def dispatch (session : Session) : Query → Report Pending
  | .document uri inquiry =>
      match session.documents.get? uri with
      | none =>
          { result := .ready inquiry.neutral
            log := [.answeredNeutrally inquiry.operation uri] }
      | some document => { result := .running (.document uri inquiry document) }
  | .source uri inquiry =>
      if inquiry.operation = .formatting ∧ session.formattingEnabled = false then
        { result := .ready inquiry.neutral, log := [.formattingDisabled uri] }
      else
        match (session.documents.get? uri).bind Document.typed? with
        | none =>
            { result := .ready inquiry.neutral
              log := [.answeredNeutrally inquiry.operation uri] }
        | some file => { result := .running (.source uri inquiry file) }
  | .subtypes item => { result := .running (.subtypes item) }
  | .supertypes item => { result := .running (.supertypes item) }

/-- Dispatches a query and waits for its answer. -/
def ask (providers : Providers) (session : Session) (query : Query) : Report Outcome :=
  let dispatched := session.dispatch query
  (dispatched.result.await providers).after dispatched.log

/-- Dispatches a query and keeps it in flight under a name.  A worker may run from now
on, but its calls are reported by the await, so no provider is called here for a query
that is never awaited. -/
def start (session : Session) (id : String) (query : Query) : Session × Report Outcome :=
  let dispatched := session.dispatch query
  ({ session with inFlight := session.inFlight.put id dispatched.result },
    dispatched.map fun pending => .started pending.isReady)

/-- Waits for a query in flight, which is in flight no longer then. -/
def await (providers : Providers) (session : Session) (id : String) :
    Session × Report Outcome :=
  match session.inFlight.get? id with
  | none => (session, { result := .notInFlight })
  | some pending =>
      ({ session with inFlight := session.inFlight.remove id }, pending.await providers)

/-- Takes one step. -/
def step (providers : Providers) (session : Session) : Step → Session × Report Outcome
  | .openText uri language text => session.openText providers uri language text
  | .change uri changes => session.change providers uri changes
  | .close uri => session.close uri
  | .save uri => (session, { result := .done, log := [.saved uri] })
  | .lookUp uri => (session, { result := .found (session.documents.get? uri) })
  | .configure configuration diagnostics => session.configure configuration diagnostics
  | .setFormatting enabled =>
      ({ session with formattingEnabled := enabled }, { result := .done })
  | .query query => (session, session.ask providers query)
  | .start id query => session.start id query
  | .await id => session.await providers id

/-- Takes steps one after another. -/
def run (providers : Providers) (session : Session) :
    List Step → Session × List (Report Outcome)
  | [] => (session, [])
  | first :: rest =>
      let taken := session.step providers first
      let others := taken.1.run providers rest
      (others.1, taken.2 :: others.2)

/-- The query side of the session as the server prints it. -/
def describeDispatcher (session : Session) : String :=
  Text.openRecord "RequestDispatcher"
    [("documents", toString session.documents.size),
     ("formatting_enabled", Text.flag session.formattingEnabled)]

/-- The document side of the session as the server prints it. -/
def describeLifecycle (session : Session) : String :=
  Text.record "DocumentLifecycle"
    [("documents", DocumentSet.describe session.documents),
     ("classifier", session.classifier.describe),
     ("publisher", session.publisher.describe)]

end Session
end LanguageServer
