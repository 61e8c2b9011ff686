import LanguageServer.Proofs.Server.Handling
import LanguageServer.Proofs.Session.Footprint

namespace LanguageServer

open Json (lookup eraseKey)

/-!
# Options take effect as a whole or not at all

A client may offer options when it starts a connection.  They come to a
configuration: the one they denote, or the default one when they are absent or
denote none.  The defaults of the server, of the reader and of a fresh session are
the same, so that it makes no difference whether a default is applied or left in
place.  What the client and the providers can observe, from the first message to
the last, depends on the options through this configuration only.

The configuration is in force from the start on.  No later message changes it.
-/

/-! ## The configuration that options come to -/

/-- The configuration that options come to. -/
def Configuration.ofOffer : Option Json → Configuration
  | none => {}
  | some options =>
      match ofOptions options with
      | .ok configuration => configuration
      | .error _ => {}

/-- The options denote the configuration; without options it is the default one. -/
def Configuration.DenotedBy (configuration : Configuration) : Option Json → Prop
  | none => configuration = {}
  | some options => ofOptions options = .ok configuration

theorem Configuration.DenotedBy.ofOffer_eq {configuration : Configuration}
    {options : Option Json} (denoted : configuration.DenotedBy options) :
    ofOffer options = configuration := by
  cases options with
  | none => exact Eq.symm denoted
  | some value =>
      have decoded : ofOptions value = .ok configuration := denoted
      simp only [ofOffer, decoded]

/-- A fresh session under a configuration. -/
def Session.configuredBy (configuration : Configuration) : Session where
  classifier := { configuration := configuration.analysis }
  publisher := ⟨configuration.diagnostics⟩
  formattingEnabled := configuration.formatting

/-- Whatever the options are, a fresh session is under the configuration that they
come to.  For the default it was so from the beginning. -/
theorem Session.run_applyOptions_eq (providers : Providers) (options : Option Json) :
    (Session.run providers {} (Server.applyOptions options).1).1 =
      configuredBy (.ofOffer options) := by
  cases options with
  | none => rfl
  | some value =>
      simp only [Server.applyOptions, Configuration.ofOffer]
      cases Configuration.ofOptions value with
      | error error => rfl
      | ok configuration => rfl

/-! ## Messages that differ in their options -/

/-- The message starts a connection.  Its options are told apart from all else in
it. -/
def Offers (raw : Json) (id : Option RequestId) (others : Json.Entries)
    (options : Option Json) : Prop :=
  ∃ entries, Message.ofJson? raw = some ⟨"initialize", some (.object entries), id⟩ ∧
    lookup entries "initializationOptions" = options ∧
    eraseKey entries "initializationOptions" = others

theorem Json.lookup_eraseKey {entries : Json.Entries} {key other : String}
    (different : key ≠ other) : lookup (eraseKey entries other) key = lookup entries key := by
  unfold lookup eraseKey
  rw [List.find?_filter]
  congr 2
  funext entry
  by_cases named : entry.1 = .text key
  · simp [named, different]
  · simp [named]

theorem Wire.Shape.byKey?_eraseKey {fields : List Wire.Field} {key : String}
    (unnamed : ∀ field ∈ fields, field.key ≠ key) (entries : Json.Entries) :
    byKey? fields (eraseKey entries key) = byKey? fields entries := by
  induction fields with
  | nil => rfl
  | cons field rest ih =>
      have first := unnamed field List.mem_cons_self
      have others := ih fun other member => unnamed other (List.mem_cons_of_mem field member)
      simp only [byKey?, Json.lookup_eraseKey first, others]

/-- The parameters of a start are well formed or not whatever the options are. -/
theorem Params.startUp_object (entries : Json.Entries) :
    startUp (.object entries) =
      (startUpShape.check (.object (eraseKey entries "initializationOptions"))).bind fun _ =>
        Json.optional entries "initializationOptions" some := by
  have same : startUpShape.accepts (.object (eraseKey entries "initializationOptions")) =
      startUpShape.accepts (.object entries) := by
    simp only [Wire.Shape.accepts, startUpShape, Wire.Shape.keyed, Option.isSome_map]
    rw [Wire.Shape.byKey?_eraseKey]
    simp [Wire.Field.optional, Wire.Field.required]
  rw [Wire.Shape.check, same]
  rfl

/-- A field of any form is always read.  As options, null comes to the same as
absence. -/
theorem Json.exists_optional (entries : Json.Entries) (key : String) :
    ∃ options, Json.optional entries key some = some options ∧
      Configuration.ofOffer options = Configuration.ofOffer (lookup entries key) := by
  unfold Json.optional
  cases lookup entries key with
  | none => exact ⟨none, rfl, rfl⟩
  | some value =>
      cases value with
      | null => exact ⟨none, rfl, rfl⟩
      | _ => exact ⟨_, rfl, rfl⟩

/-- What is read as the options of a start comes to the configuration of what was
offered. -/
theorem Offers.ofOffer_eq {raw : Json} {id : Option RequestId} {others : Json.Entries}
    {options given : Option Json} {message : Message} (offers : Offers raw id others options)
    (read : Message.ofJson? raw = some message)
    (params : message.params.bind Params.startUp = some given) :
    Configuration.ofOffer given = Configuration.ofOffer options := by
  rcases offers with ⟨entries, found, rfl, _⟩
  rw [found] at read
  cases read
  rw [Option.bind_some, Params.startUp_object] at params
  rcases Option.bind_eq_some_iff.mp params with ⟨_, _, reads⟩
  rcases Json.exists_optional entries "initializationOptions" with ⟨_, same, comes⟩
  rw [reads] at same
  cases same
  exact comes

namespace Offers

variable {first second : Json} {id : Option RequestId} {others : Json.Entries}
  {firstOptions secondOptions : Option Json}

/-- Two starts that differ only in their options are both refused, or they both go
on with options that come to the configurations of what was offered. -/
theorem receive_cases (offers : Offers first id others firstOptions)
    (also : Offers second id others secondOptions) (phase : Phase)
    (unfinished : List RequestId) :
    phase.receive unfinished first = phase.receive unfinished second ∨
    ∃ name options otherOptions, phase = .uninitialized ∧
      phase.receive unfinished first = (phase, .begin name options) ∧
      phase.receive unfinished second = (phase, .begin name otherOptions) ∧
      Configuration.ofOffer options = Configuration.ofOffer firstOptions ∧
      Configuration.ofOffer otherOptions = Configuration.ofOffer secondOptions := by
  rcases offers with ⟨entries, read, rfl, rfl⟩
  rcases also with ⟨otherEntries, otherRead, rfl, same⟩
  have routed : Route.ofMethod? "initialize" = some .startUp := rfl
  simp only [Phase.receive, read, otherRead, routed]
  by_cases exited : phase = .exited
  · rw [if_pos exited, if_pos exited]
    exact .inl rfl
  rw [if_neg exited, if_neg exited]
  by_cases waiting : phase = .uninitialized
  · rw [if_pos waiting, if_pos waiting]
    simp only [Message.takeStartUp, Message.refuse]
    by_cases used : id.any unfinished.contains
    · rw [if_pos used, if_pos used]
      exact .inl rfl
    · rw [if_neg used, if_neg used]
      cases id with
      | none => exact .inl rfl
      | some name =>
          simp only [Message.takeRequest, Option.bind_some, Params.startUp_object, same]
          cases Params.startUpShape.check
              (.object (eraseKey entries "initializationOptions")) with
          | none => exact .inl rfl
          | some checked =>
              rcases Json.exists_optional entries "initializationOptions" with
                ⟨options, reads, comes⟩
              rcases Json.exists_optional otherEntries "initializationOptions" with
                ⟨otherOptions, otherReads, otherComes⟩
              simp only [Option.bind_some, reads, otherReads]
              exact .inr ⟨name, options, otherOptions, waiting, rfl, rfl, comes, otherComes⟩
  · rw [if_neg waiting, if_neg waiting]
    exact .inl rfl

end Offers

/-! ## Two runs -/

/-- What the client and the providers observe of an exchange. -/
def Exchange.observed (exchange : Exchange) :
    Reply × List Notification × List Invocation :=
  (exchange.reply, exchange.sent, exchange.invocations)

namespace Server

/-- What is observed of a start does not depend on the options. -/
theorem observed_begin (providers : Providers) (left right : Server) (id : RequestId)
    (options otherOptions : Option Json) :
    (left.begin providers id options).2.observed =
      (right.begin providers id otherOptions).2.observed := by
  have calls := (run_applyOptions providers left.session options).2
  have otherCalls := (run_applyOptions providers right.session otherOptions).2
  cases declared : providers.declaration.2 with
  | ok capabilities => simp only [begin, declared, Exchange.observed, calls, otherCalls]
  | error panic => simp only [begin, declared, Exchange.observed, calls, otherCalls]

/-- The servers cannot be told apart.  They are equal, or they differ in a session
that cannot be reached any more. -/
def Alike (providers : Providers) (left right : Server) : Prop :=
  left = right ∨
    (left.phase = right.phase ∧ left.unfinished = right.unfinished ∧
      left.phase ≠ .initialized ∧ ∃ panic, providers.declaration.2 = .error panic)

/-- One message cannot tell servers apart that are alike. -/
theorem Alike.handle {providers : Providers} {left right : Server}
    (alike : Alike providers left right) (raw : Json) :
    (left.handle providers raw).2.observed = (right.handle providers raw).2.observed ∧
      Alike providers (left.handle providers raw).1 (right.handle providers raw).1 := by
  rcases alike with rfl | ⟨samePhase, sameUnfinished, unready, panic, declared⟩
  · exact ⟨rfl, .inl rfl⟩
  rcases left with ⟨phase, session, unfinished⟩
  rcases right with ⟨_, other, _⟩
  cases samePhase
  cases sameUnfinished
  -- Both take the message in alike, since this does not involve the session.
  have possible := phase.received unfinished raw
  simp only [Server.handle]
  generalize phase.receive unfinished raw = received at possible ⊢
  cases possible with
  | @passed next intake passive onward idle =>
      rcases perform_of_passive providers next unfinished passive with
        ⟨exchange, still, _, _, performed⟩
      rw [performed session, performed other]
      refine ⟨rfl, .inr ⟨rfl, rfl, ?_, panic, declared⟩⟩
      exact fun up => unready (onward.eq_initialized up)
  | @starts message id options waiting read method identified params =>
      refine ⟨observed_begin providers _ _ id options options, .inr ?_⟩
      rw [perform, perform, begin_of_panic _ _ _ declared, begin_of_panic _ _ _ declared]
      exact ⟨rfl, rfl, Phase.noConfusion, panic, declared⟩
  | changes ready => exact absurd ready unready
  | asks ready => exact absurd ready unready

theorem Alike.run {providers : Providers} {left right : Server}
    (alike : Alike providers left right) (messages : List Json) :
    (left.run providers messages).2.map Exchange.observed =
      (right.run providers messages).2.map Exchange.observed := by
  induction messages generalizing left right with
  | nil => rfl
  | cons raw rest ih =>
      have first := alike.handle raw
      simp only [Server.run, List.map_cons]
      rw [first.1, ih first.2]

/-- What one message preserves, all messages preserve. -/
theorem run_invariant {providers : Providers} {holds : Server → Prop}
    (preserved : ∀ server raw, holds server → holds (server.handle providers raw).1)
    {server : Server} (start : holds server) (messages : List Json) :
    holds (server.run providers messages).1 := by
  induction messages generalizing server with
  | nil => exact start
  | cons raw rest ih => exact ih (preserved server raw start)

/-- A server that waits for the start of a connection has a fresh session, unless
a start has failed. -/
def Fresh (providers : Providers) (server : Server) : Prop :=
  server.phase = .uninitialized → ∀ capabilities,
    providers.declaration.2 = .ok capabilities → server.session = {}

theorem Fresh.handle {providers : Providers} (server : Server) (raw : Json)
    (fresh : Fresh providers server) : Fresh providers (server.handle providers raw).1 := by
  intro waits capabilities declared
  have handled := server.handled providers raw
  generalize server.handle providers raw = result at handled waits ⊢
  cases handled with
  | passed session onward _ _ _ =>
      rw [session]
      exact fresh (onward.eq_uninitialized waits) capabilities declared
  | starts =>
      rw [begin_of_declared _ _ _ declared] at waits
      cases waits
  | changes ready =>
      have up : server.phase = .uninitialized := waits
      rw [ready] at up
      cases up
  | asks ready =>
      have up : server.phase = .uninitialized := waits
      rw [ready] at up
      cases up

/-- Starts whose options come to the same configuration have the same observable
effect and leave servers that are alike. -/
theorem alike_of_offers {providers : Providers} {server : Server}
    (fresh : Fresh providers server) {first second : Json} {id : Option RequestId}
    {others : Json.Entries} {firstOptions secondOptions : Option Json}
    (offers : Offers first id others firstOptions)
    (also : Offers second id others secondOptions)
    (same : Configuration.ofOffer firstOptions = Configuration.ofOffer secondOptions) :
    (server.handle providers first).2.observed = (server.handle providers second).2.observed ∧
      Alike providers (server.handle providers first).1
        (server.handle providers second).1 := by
  rcases offers.receive_cases also server.phase server.unfinished with
    equal | ⟨name, options, otherOptions, waiting, begins, alsoBegins, comes, otherComes⟩
  · have handled : server.handle providers first = server.handle providers second := by
      simp only [handle, equal]
    rw [handled]
    exact ⟨rfl, .inl rfl⟩
  · simp only [handle, begins, alsoBegins, perform]
    refine ⟨observed_begin providers _ _ name options otherOptions, ?_⟩
    cases declared : providers.declaration.2 with
    | ok capabilities =>
        have configured := (comes.trans same).trans otherComes.symm
        rw [begin_of_declared _ _ _ declared, begin_of_declared _ _ _ declared,
          fresh waiting capabilities declared, Session.run_applyOptions_eq,
          Session.run_applyOptions_eq, configured]
        exact .inl rfl
    | error panic =>
        rw [begin_of_panic _ _ _ declared, begin_of_panic _ _ _ declared]
        refine .inr ⟨rfl, rfl, ?_, panic, declared⟩
        rw [waiting]
        exact Phase.noConfusion

end Server

/-! ## Working under a configuration -/

namespace Session

/-- A typed source that a step stores is built with the configuration that the
classifier has at that time. -/
theorem configuration_of_effect_stored {session : Session} {step : Step} {uri : Uri}
    {document : Document} {file : TypedFile}
    (stores : session.effect step = .stored uri document)
    (typed : document.typed? = some file) :
    file.context.configuration = session.classifier.configuration := by
  rcases effect_stored_cases stores with
    ⟨language, text, kind, _, _, rfl⟩ | ⟨first, others, current, _, _, rfl⟩
  · have shows := Document.shows_iff_eq_build.mpr
      (rfl : session.classifier.build kind uri text = _)
    rw [shows.context_eq file typed]
  · have shows := Document.shows_iff_eq_build.mpr
      (rfl : session.classifier.build current.kind uri first.text = _)
    rw [shows.context_eq file typed]

/-- The session has the settings of the configuration, all its typed sources were
built with them, and no query is in flight. -/
structure Under (configuration : Configuration) (session : Session) : Prop where
  formatting : session.formattingEnabled = configuration.formatting
  diagnostics : session.publisher.enabled = configuration.diagnostics
  analysis : session.classifier.configuration = configuration.analysis
  sources : ∀ uri document file, session.documents.get? uri = some document →
    document.typed? = some file → file.context.configuration = configuration.analysis
  idle : ∀ id, session.inFlight.get? id = none

theorem under_configuredBy (configuration : Configuration) :
    (configuredBy configuration).Under configuration where
  formatting := rfl
  diagnostics := rfl
  analysis := rfl
  sources := by
    intro uri document file found
    cases found
  idle := fun _ => rfl

/-- A step that configures nothing and names no query keeps the session under its
configuration. -/
theorem Under.step (providers : Providers) {configuration : Configuration} {session : Session}
    (under : session.Under configuration) {step : Step} (silent : step.configures = false)
    (unnamed : step.name? = none) :
    (session.step providers step).1.Under configuration := by
  have settings := Step.settings_of_not_configures silent
  refine ⟨?_, ?_, ?_, ?_, ?_⟩
  · rw [step_fst, settings.2.2]
    exact under.formatting
  · rw [step_fst, settings.2.1]
    exact under.diagnostics
  · rw [step_fst, settings.1]
    exact under.analysis
  · intro uri document file found typed
    rw [documents_step, Effect.get?_apply] at found
    cases effect : session.effect step with
    | stored target built =>
        simp only [effect] at found
        by_cases same : target = uri
        · rw [if_pos same] at found
          cases found
          exact (configuration_of_effect_stored effect typed).trans under.analysis
        · rw [if_neg same] at found
          exact under.sources uri document file found typed
    | dropped target =>
        simp only [effect] at found
        by_cases same : target = uri
        · rw [if_pos same] at found
          cases found
        · rw [if_neg same] at found
          exact under.sources uri document file found typed
    | kept =>
        simp only [effect] at found
        exact under.sources uri document file found typed
  · intro id
    rw [inFlight_step]
    cases step with
    | start other query => cases unnamed
    | await other => cases unnamed
    | _ => exact under.idle id

/-- The typed sources that are handed to providers were built under the
configuration, too. -/
theorem Under.handed {providers : Providers} {configuration : Configuration}
    {session : Session} (under : session.Under configuration) {step : Step} {call : Call}
    {document : Document} {file : TypedFile}
    (member : call ∈ (session.step providers step).2.calls)
    (handed : call.document? = some document) (typed : document.typed? = some file) :
    file.context.configuration = configuration.analysis := by
  rcases handed_cases providers member handed with
    ⟨uri, stores⟩ | ⟨uri, found⟩ | ⟨id, job, waits, _⟩
  · exact (configuration_of_effect_stored stores typed).trans under.analysis
  · exact under.sources uri document file found typed
  · rw [under.idle id] at waits
    cases waits

/-- A request to format a typed source asks for permission exactly when formatting
is switched on. -/
theorem canFormat_mem_calls_iff (providers : Providers) {session : Session} {uri : Uri}
    {file : TypedFile} (options : Wire.FormattingOptions)
    (found : (session.documents.get? uri).bind Document.typed? = some file) :
    ⟨.canFormat, file⟩ ∈
        (session.step providers (.query (.source uri (.formatting options)))).2.calls ↔
      session.formattingEnabled = true := by
  rw [calls_step]
  cases enabled : session.formattingEnabled with
  | false => simp [dispatch, SourceInquiry.operation, enabled, Pending.await]
  | true =>
      have running : (session.dispatch (.source uri (.formatting options))).result =
          .running (.source uri (.formatting options) file) := by
        simp [dispatch, enabled, found]
      refine iff_of_true ?_ rfl
      simp only [running, Pending.await, Report.calls_map, Job.calls_run, Job.work, Job.format,
        Report.call]
      cases providers.answer .canFormat file with
      | error panic => exact List.mem_singleton_self _
      | ok permitted => cases permitted <;> exact List.mem_cons_self

end Session

namespace Server

/-- What becomes of a typed source that a message stores depends on the switch for
diagnostics. -/
theorem notify_of_stored (providers : Providers) {session : Session} {step : Step} {uri : Uri}
    {document : Document} {file : TypedFile}
    (stores : session.effect step = .stored uri document)
    (typed : document.typed? = some file) :
    (notify providers session step).2.invocations =
        (if session.publisher.enabled then [.called ⟨.diagnostics, file⟩] else []) ∧
      ∀ diagnostics, providers.answer .diagnostics file = .ok diagnostics →
        (notify providers session step).2.sent =
          if session.publisher.enabled then [.publishDiagnostics ⟨uri, diagnostics⟩] else [] := by
  have report := Session.report_of_stored providers stores
  have about : subject? step = some uri := by
    rcases Session.effect_stored_cases stores with
      ⟨language, text, kind, rfl, _, _⟩ | ⟨first, others, current, rfl, _, _⟩
    · rfl
    · rfl
  constructor
  · simp only [notify, report.2, Publisher.calls_onStored, typed]
    split <;> rfl
  · intro diagnostics answered
    simp only [notify, about, report.1, Publisher.onStored, typed, Report.call, answered]
    rw [← Session.uri_of_effect_stored stores]
    split <;> rfl

/-- The configuration is in force at the server: in its settings, in the typed
sources that it holds and hands to providers, in what it publishes about a typed
source that is opened or changed, and in whether it formats. -/
structure WorksUnder (providers : Providers) (configuration : Configuration)
    (server : Server) : Prop where
  formatting : server.session.formattingEnabled = configuration.formatting
  diagnostics : server.session.publisher.enabled = configuration.diagnostics
  analysis : server.session.classifier.configuration = configuration.analysis
  sources : ∀ uri document file, server.session.documents.get? uri = some document →
    document.typed? = some file → file.context.configuration = configuration.analysis
  handed : ∀ raw call document file,
    .called call ∈ (server.handle providers raw).2.invocations →
    call.document? = some document → document.typed? = some file →
    file.context.configuration = configuration.analysis
  publishes : ∀ raw message step uri document file,
    server.phase = .initialized → Message.ofJson? raw = some message → message.AsksFor step →
    server.session.effect step = .stored uri document → document.typed? = some file →
    let exchange := (server.handle providers raw).2
    file.context.configuration = configuration.analysis ∧
    exchange.invocations =
      (if configuration.diagnostics then [.called ⟨.diagnostics, file⟩] else []) ∧
    ∀ diagnostics, providers.answer .diagnostics file = .ok diagnostics →
      exchange.sent =
        if configuration.diagnostics then [.publishDiagnostics ⟨uri, diagnostics⟩] else []
  formats : ∀ raw message uri options file,
    server.phase = .initialized → Message.ofJson? raw = some message →
    message.AsksFor (.query (.source uri (.formatting options))) →
    (server.session.documents.get? uri).bind Document.typed? = some file →
    (.called ⟨.canFormat, file⟩ ∈ (server.handle providers raw).2.invocations ↔
      configuration.formatting = true)

/-- No message asks for a configuration or for a query to be kept in flight. -/
theorem configures_of_step? {message : Message} {step : Step}
    (found : message.step? = some step) : step.configures = false ∧ step.name? = none := by
  have named := (Message.step?_eq_some_iff.mp found).method
  cases step with
  | configure configuration diagnostics => cases named
  | setFormatting enabled => cases named
  | start id query => cases named
  | await id => cases named
  | _ => exact ⟨rfl, rfl⟩

/-- The connection has been started under the configuration. -/
structure StartedUnder (configuration : Configuration) (server : Server) : Prop where
  started : server.phase ≠ .uninitialized
  under : server.session.Under configuration

theorem called_mem_iff {call : Call} {calls : List Call} :
    .called call ∈ calls.map Invocation.called ↔ call ∈ calls := by
  simp

namespace StartedUnder

variable {providers : Providers} {configuration : Configuration} {server : Server}

theorem of_step (providers : Providers) {next : Server} {message : Message} {step : Step}
    (started : server.StartedUnder configuration) (found : message.step? = some step)
    (phase : next.phase = server.phase)
    (taken : next.session = (server.session.step providers step).1) :
    next.StartedUnder configuration := by
  have silent := configures_of_step? found
  constructor
  · rw [phase]
    exact started.started
  · rw [taken]
    exact started.under.step providers silent.1 silent.2

theorem handle (server : Server) (raw : Json) (started : server.StartedUnder configuration) :
    (server.handle providers raw).1.StartedUnder configuration := by
  have handled := server.handled providers raw
  generalize server.handle providers raw = result at handled ⊢
  cases handled with
  | passed session onward _ _ _ =>
      constructor
      · exact fun waits => started.started (onward.eq_uninitialized waits)
      · rw [session]
        exact started.under
  | starts waiting => exact absurd waiting started.started
  | changes _ _ found _ => exact started.of_step providers found rfl rfl
  | asks _ _ _ found => exact started.of_step providers found rfl rfl

theorem handed (started : server.StartedUnder configuration) {raw : Json} {call : Call}
    {document : Document} {file : TypedFile}
    (member : .called call ∈ (server.handle providers raw).2.invocations)
    (handed : call.document? = some document) (typed : document.typed? = some file) :
    file.context.configuration = configuration.analysis := by
  have handled := server.handled providers raw
  generalize server.handle providers raw = result at handled member
  cases handled with
  | passed _ _ _ none _ =>
      rw [none] at member
      cases member
  | starts waiting => exact absurd waiting started.started
  | changes => exact started.under.handed (called_mem_iff.mp member) handed typed
  | asks => exact started.under.handed (called_mem_iff.mp member) handed typed

theorem worksUnder (started : server.StartedUnder configuration) :
    server.WorksUnder providers configuration where
  formatting := started.under.formatting
  diagnostics := started.under.diagnostics
  analysis := started.under.analysis
  sources := started.under.sources
  handed := fun _ _ _ _ member handed typed => started.handed member handed typed
  publishes := by
    intro raw message step uri document file ready read asks stores typed exchange
    have found := Message.step?_eq_some_iff.mpr asks
    have notice : step.isQuery = false := by
      rcases Session.effect_stored_cases stores with
        ⟨language, text, kind, rfl, _, _⟩ | ⟨first, others, current, rfl, _, _⟩
      · rfl
      · rfl
    have handled := (server.handled providers raw).eq_notify ready read found notice
    have told := notify_of_stored providers stores typed
    rw [started.under.diagnostics] at told
    refine ⟨?_, ?_⟩
    · exact (Session.configuration_of_effect_stored stores typed).trans started.under.analysis
    · simp only [exchange, handled]
      exact told
  formats := by
    intro raw message uri options file ready read asks stored
    have found := Message.step?_eq_some_iff.mpr asks
    rcases Option.isSome_iff_exists.mp asks.id with ⟨id, identified⟩
    have handled := (server.handled providers raw).eq_respond ready read identified found
    rw [handled, ← started.under.formatting,
      ← Session.canFormat_mem_calls_iff providers options stored]
    exact called_mem_iff

end StartedUnder

/-- A start that succeeds puts the configuration in force that its options come
to. -/
theorem startedUnder_of_offers {providers : Providers} {server : Server}
    (fresh : Fresh providers server) {raw : Json} {id : Option RequestId}
    {others : Json.Entries} {options : Option Json} (offers : Offers raw id others options)
    (waiting : server.phase = .uninitialized)
    (up : (server.handle providers raw).1.phase = .initialized) :
    (server.handle providers raw).1.StartedUnder (.ofOffer options) := by
  have handled := server.handled providers raw
  generalize server.handle providers raw = result at handled up ⊢
  cases handled with
  | passed _ onward _ _ _ =>
      have ready := onward.eq_initialized up
      rw [waiting] at ready
      cases ready
  | @starts message name given _ read _ _ params =>
      cases declared : providers.declaration.2 with
      | ok capabilities =>
          rw [begin_of_declared server name given declared]
          refine ⟨Phase.noConfusion, ?_⟩
          rw [fresh waiting capabilities declared, Session.run_applyOptions_eq,
            offers.ofOffer_eq read params]
          exact Session.under_configuredBy _
      | error panic =>
          rw [begin_of_panic server name given declared] at up
          rw [waiting] at up
          cases up
  | changes ready =>
      rw [waiting] at ready
      cases ready
  | asks ready =>
      rw [waiting] at ready
      cases ready

/-! ## The law -/

/-- Whatever came before the start and comes after it, two runs are observed to be
the same when the options of their starts come to the same configuration. -/
theorem observed_run_eq (providers : Providers) (earlier later : List Json)
    {first second : Json} {id : Option RequestId} {others : Json.Entries}
    {firstOptions secondOptions : Option Json} (offers : Offers first id others firstOptions)
    (also : Offers second id others secondOptions)
    (same : Configuration.ofOffer firstOptions = Configuration.ofOffer secondOptions) :
    (run providers {} (earlier ++ first :: later)).2.map Exchange.observed =
      (run providers {} (earlier ++ second :: later)).2.map Exchange.observed := by
  have fresh : Fresh providers (run providers {} earlier).1 :=
    run_invariant Fresh.handle (fun _ _ _ => rfl) earlier
  have start := alike_of_offers fresh offers also same
  simp only [run_append, List.map_append, run, List.map_cons]
  rw [start.1, start.2.run later]

/-- Options take effect as a whole or not at all.  A message starts a connection and
offers options; any messages may have come before it and any may come after it.

If the options denote no configuration, then all replies, all that is sent and all
uses of providers, over the whole run, are the same as if the message had no
options.  If they denote a configuration, the run is observed to be the same as with
any other options that denote it; absent options, null and the empty object denote
the default.  Once the connection is up, the server works under the configuration,
whatever messages come. -/
theorem options_all_or_nothing (providers : Providers) (earlier later : List Json)
    {raw : Json} {id : Option RequestId} {others : Json.Entries} {options : Option Json}
    (offers : Offers raw id others options) :
    let observed (message : Json) :=
      (run providers {} (earlier ++ message :: later)).2.map Exchange.observed
    (∀ value error bare, options = some value → Configuration.ofOptions value = .error error →
      Offers bare id others none → observed raw = observed bare) ∧
    (∀ (configuration : Configuration) other otherOptions, configuration.DenotedBy options →
      Offers other id others otherOptions → configuration.DenotedBy otherOptions →
      observed raw = observed other) ∧
    (∀ default ∈ [none, some .null, some (.object [])],
      ({} : Configuration).DenotedBy default) ∧
    ∀ configuration : Configuration, configuration.DenotedBy options →
      (run providers {} earlier).1.phase = .uninitialized →
      (run providers {} (earlier ++ [raw])).1.phase = .initialized →
      (run providers {} (earlier ++ raw :: later)).1.WorksUnder providers configuration := by
  intro observed
  refine ⟨?_, ?_, ?_, ?_⟩
  · rintro value error bare rfl fails without
    have default : Configuration.ofOffer (some value) = Configuration.ofOffer none := by
      simp only [Configuration.ofOffer, fails]
    exact observed_run_eq providers earlier later offers without default
  · intro configuration other otherOptions denoted also otherDenoted
    have same := denoted.ofOffer_eq.trans otherDenoted.ofOffer_eq.symm
    exact observed_run_eq providers earlier later offers also same
  · simp only [List.mem_cons, List.not_mem_nil, or_false, forall_eq_or_imp, forall_eq]
    exact ⟨rfl, rfl, rfl⟩
  · intro configuration denoted waiting up
    have fresh : Fresh providers (run providers {} earlier).1 :=
      run_invariant Fresh.handle (fun _ _ _ => rfl) earlier
    rw [run_append] at up
    have started := startedUnder_of_offers fresh offers waiting up
    rw [denoted.ofOffer_eq] at started
    rw [run_append]
    exact (run_invariant StartedUnder.handle started later).worksUnder

/-- One section of the options is well formed and asks for no formatting, the other
is not: the options as a whole are ignored.  With the first section alone,
formatting is switched off. -/
theorem options_all_or_nothing_partly_valid :
    let providers : Providers := ⟨fun _ _ => .error ⟨"bug"⟩, fun _ declared => .ok declared⟩
    let off : Json := .record [("enabled", .bool false)]
    let start (offered : List (String × Json)) : Json := .record
      [("jsonrpc", .str "2.0"), ("id", .int 1), ("method", .str "initialize"),
       ("params", .record (("capabilities", .record []) :: offered))]
    let mixed := start
      [("initializationOptions", .record [("formatting", off), ("diagnostics", .str "off")])]
    let plain := start [("initializationOptions", .record [("formatting", off)])]
    let ready : Json := .record
      [("jsonrpc", .str "2.0"), ("method", .str "initialized"), ("params", .record [])]
    (run providers {} [mixed, ready]).2.map Exchange.observed =
        (run providers {} [start [], ready]).2.map Exchange.observed ∧
      (run providers {} [plain, ready]).1.session.formattingEnabled = false := by
  intro providers off start mixed plain ready
  let id : Option RequestId := some (.number 1)
  let others : Json.Entries := [(.text "capabilities", .record [])]
  have offersMixed : Offers mixed id others
      (some (.record [("formatting", off), ("diagnostics", .str "off")])) := ⟨_, rfl, rfl, rfl⟩
  have offersPlain : Offers plain id others (some (.record [("formatting", off)])) :=
    ⟨_, rfl, rfl, rfl⟩
  have offersNone : Offers (start []) id others none := ⟨_, rfl, rfl, rfl⟩
  constructor
  · exact (options_all_or_nothing providers [] [ready] offersMixed).1 _ _ _ rfl rfl offersNone
  · have law := (options_all_or_nothing providers [] [ready] offersPlain).2.2.2
    exact (law { formatting := false } rfl rfl rfl).formatting

end Server
end LanguageServer
