import LanguageServer.Configuration
import LanguageServer.Document
import LanguageServer.Query

namespace LanguageServer

/-!
Reports.  A part of the server that may call providers or log gives its result
together with the calls it made and the events it logged, both in order.

An event is a fact about the run; its level, its origin and its wording are
functions of it.  Events of a worker also name the query the worker runs.
-/

/-! ## What is logged -/

/-- How important an event is. -/
inductive LogLevel where
  | trace
  | debug
  | info
  | warn
  | error
  deriving DecidableEq, Repr

/-- The name of a level. -/
def LogLevel.name : LogLevel → String
  | .trace => "TRACE"
  | .debug => "DEBUG"
  | .info => "INFO"
  | .warn => "WARN"
  | .error => "ERROR"

/-- The facts that are logged. -/
inductive LogEvent where
  | configurationReplaced (configuration : AnalysisConfiguration)
  | noKind (language : String)
  | opened (uri : Uri) (kind : DocumentKind)
  | reopened
  | emptyChange (uri : Uri)
  | changeNotOpen (uri : Uri)
  | closed (uri : Uri) (kind : DocumentKind)
  | closeNotOpen (uri : Uri)
  | saved (uri : Uri)
  | diagnosticsSkipped (uri : Uri)
  | diagnosticsComputed (count : Nat) (uri : Uri)
  | answeredNeutrally (operation : Operation) (uri : Uri)
  | formattingDisabled (uri : Uri)
  | notFormattable (uri : Uri)
  | finished (operation : Operation) (uri : Uri)
  | initializing
  | applyingConfiguration (configuration : Configuration)
  | optionsIgnored (error : DecodeError)
  | initialized
  | shuttingDown
  | openFailed (uri : Uri) (language : String)
  | documentChanged (uri : Uri)
  deriving DecidableEq

/-- The wording of a refused language identifier. -/
def unsupportedLanguage (language : String) : String :=
  "unsupported language id: " ++ language

namespace LogEvent

/-- How important an event is. -/
def level : LogEvent → LogLevel
  | .configurationReplaced _ => .debug
  | .noKind _ => .warn
  | .opened _ _ => .info
  | .reopened => .debug
  | .emptyChange _ => .debug
  | .changeNotOpen _ => .debug
  | .closed _ _ => .info
  | .closeNotOpen _ => .debug
  | .saved _ => .debug
  | .diagnosticsSkipped _ => .trace
  | .diagnosticsComputed _ _ => .debug
  | .answeredNeutrally _ _ => .debug
  | .formattingDisabled _ => .debug
  | .notFormattable _ => .warn
  | .finished _ _ => .trace
  | .initializing => .info
  | .applyingConfiguration _ => .debug
  | .optionsIgnored _ => .warn
  | .initialized => .info
  | .shuttingDown => .info
  | .openFailed _ _ => .error
  | .documentChanged _ => .debug

/-- The part of the server an event comes from. -/
def target : LogEvent → String
  | .configurationReplaced _ => "magik_core::classify"
  | .noKind _ => "magik_core::classify"
  | .opened _ _ => "magik_lsp::document::lifecycle"
  | .reopened => "magik_lsp::document::lifecycle"
  | .emptyChange _ => "magik_lsp::document::lifecycle"
  | .changeNotOpen _ => "magik_lsp::document::lifecycle"
  | .closed _ _ => "magik_lsp::document::lifecycle"
  | .closeNotOpen _ => "magik_lsp::document::lifecycle"
  | .saved _ => "magik_lsp::document::lifecycle"
  | .diagnosticsSkipped _ => "magik_lsp::diagnostics"
  | .diagnosticsComputed _ _ => "magik_lsp::diagnostics"
  | .answeredNeutrally _ _ => "magik_lsp::dispatch"
  | .formattingDisabled _ => "magik_lsp::dispatch::editing"
  | .notFormattable _ => "magik_lsp::dispatch::editing"
  | .finished _ _ => "magik_lsp::duration"
  | _ => "magik_lsp::server"

/-- The wording of an event. -/
def message : LogEvent → String
  | .configurationReplaced configuration =>
      "analysis configuration replaced: " ++ configuration.describe
  | .noKind language => "no document kind for language id " ++ Text.quoted language
  | .opened uri kind => "opened " ++ uri.text ++ " as " ++ kind.languageId
  | .reopened => "reopen replaced the previous document"
  | .emptyChange uri => "change for " ++ uri.text ++ " carried no content, ignoring"
  | .changeNotOpen uri => "change for " ++ uri.text ++ " which is not open, ignoring"
  | .closed uri kind => "closed " ++ uri.text ++ " (" ++ kind.languageId ++ ")"
  | .closeNotOpen uri => "close for " ++ uri.text ++ " which is not open"
  | .saved uri => "saved " ++ uri.text
  | .diagnosticsSkipped uri => "diagnostics disabled, skipping " ++ uri.text
  | .diagnosticsComputed count uri =>
      "computed " ++ toString count ++ " diagnostic(s) for " ++ uri.text
  | .answeredNeutrally _ _ => "document not open or kind not supported"
  | .formattingDisabled _ => "formatting disabled by configuration"
  | .notFormattable uri => "cannot format " ++ uri.text ++ ", source is not formattable"
  | .finished operation _ => operation.name ++ " finished"
  | .initializing => "initializing magik-lsp server"
  | .applyingConfiguration configuration =>
      "applying configuration: " ++ configuration.describe
  | .optionsIgnored error =>
      "ignoring initialization options, using defaults: JSON error: " ++ error.message
  | .initialized => "magik-lsp server initialized"
  | .shuttingDown => "shutting down magik-lsp server"
  | .openFailed uri language =>
      "failed to open document " ++ uri.text ++ ": " ++ unsupportedLanguage language
  | .documentChanged uri => "document changed: " ++ uri.text

/-- Further fields of an event. -/
def fields : LogEvent → List (String × String)
  | .answeredNeutrally operation uri => [("operation", operation.name), ("uri", uri.text)]
  | .formattingDisabled uri => [("operation", Operation.formatting.name), ("uri", uri.text)]
  | .finished operation _ => [("operation", operation.name)]
  | _ => []

/-- The query that the worker behind an event runs. -/
def worker? : LogEvent → Option (Operation × Uri)
  | .notFormattable uri => some (.formatting, uri)
  | .finished operation uri => some (operation, uri)
  | _ => none

/-- The event as JSON. -/
def toJson (event : LogEvent) : Json :=
  .record
    ([("level", .str event.level.name), ("target", .str event.target),
      ("message", .str event.message)] ++
      event.fields.map (fun field => (field.1, .str field.2)) ++
      match event.worker? with
      | none => []
      | some (operation, uri) =>
          [("span",
            .record
              [("name", .str "dispatch"), ("operation", .str operation.name),
               ("uri", .str uri.text)])])

end LogEvent

/-! ## Results with calls and events -/

/-- A result with the calls and events on the way to it. -/
structure Report (α : Type) where
  result : α
  calls : List Call := []
  log : List LogEvent := []

namespace Report

/-- The report with another result. -/
def map {α β : Type} (f : α → β) (report : Report α) : Report β :=
  ⟨f report.result, report.calls, report.log⟩

/-- The report with events logged before it. -/
def after {α : Type} (events : List LogEvent) (report : Report α) : Report α :=
  { report with log := events ++ report.log }

/-- Calls a method. -/
def call (providers : Providers) (method : Method) (argument : method.Argument) :
    Report (Except Panic method.Answer) :=
  { result := providers.answer method argument, calls := [⟨method, argument⟩] }

@[simp] theorem result_map {α β : Type} (f : α → β) (report : Report α) :
    (report.map f).result = f report.result := rfl

@[simp] theorem calls_map {α β : Type} (f : α → β) (report : Report α) :
    (report.map f).calls = report.calls := rfl

@[simp] theorem log_map {α β : Type} (f : α → β) (report : Report α) :
    (report.map f).log = report.log := rfl

@[simp] theorem result_after {α : Type} (events : List LogEvent) (report : Report α) :
    (report.after events).result = report.result := rfl

@[simp] theorem calls_after {α : Type} (events : List LogEvent) (report : Report α) :
    (report.after events).calls = report.calls := rfl

@[simp] theorem log_after {α : Type} (events : List LogEvent) (report : Report α) :
    (report.after events).log = events ++ report.log := rfl

end Report

end LanguageServer
