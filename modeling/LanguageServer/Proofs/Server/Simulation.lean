import LanguageServer.Proofs.Server.Handling

namespace LanguageServer

/-!
# The server runs a session

Seen from the session, a run of the server is a list of steps.  A message stands
for the step it asks for, if it comes while the connection is up.  The message
that brings the connection up stands for the steps that its options give.  Every
other message stands for no step.

A session that takes these steps has the documents of the server after every
message.  What it publishes is what the server sends, and what it answers or fails
with is what the server responds.

The two can differ in one respect only.  A provider may panic over its declaration
when the options of the client have already taken effect.  The session that takes
the steps does not have these settings then; but such a connection never comes up,
and nothing depends on them.
-/

/-! ## The steps of a message -/

/-- The steps that apply the options in a message.  Options that are absent or no
configuration give none. -/
def Message.settings (message : Message) : List Step :=
  match message.options? with
  | none => []
  | some options =>
      match Configuration.ofOptions options with
      | .ok configuration =>
          [.configure configuration.analysis configuration.diagnostics,
           .setFormatting configuration.formatting]
      | .error _ => []

/-- The steps that a message stands for when it is received in one phase and leaves
the connection in another. -/
def Phase.rendered (before after : Phase) (raw : Json) : List Step :=
  match Message.ofJson? raw with
  | none => []
  | some message =>
      if before = .initialized then message.step?.toList
      else if message.method = "initialize" ∧ after = .initialized then message.settings
      else []

/-- The steps that a run of the server amounts to. -/
def Server.translation (providers : Providers) (server : Server) : List Json → List Step
  | [] => []
  | raw :: rest =>
      let next := (server.handle providers raw).1
      server.phase.rendered next.phase raw ++ next.translation providers rest

namespace Phase

variable {before after : Phase} {raw : Json} {message : Message}

theorem rendered_of_step? (ready : before = .initialized)
    (read : Message.ofJson? raw = some message) {step : Step}
    (found : message.step? = some step) : before.rendered after raw = [step] := by
  simp only [rendered, read, if_pos ready, found, Option.toList_some]

theorem rendered_of_idle (onward : before.Onward after)
    (idle : before = .initialized → ∀ message, Message.ofJson? raw = some message →
      message.step? = none) :
    before.rendered after raw = [] := by
  unfold rendered
  cases read : Message.ofJson? raw with
  | none => rfl
  | some message =>
      by_cases ready : before = .initialized
      · simp only [if_pos ready, idle ready message read, Option.toList_none]
      · have down : after ≠ .initialized := fun up => ready (onward.eq_initialized up)
        simp only [if_neg ready, down, and_false, if_false]

theorem rendered_of_startUp (waiting : before = .uninitialized)
    (read : Message.ofJson? raw = some message) (method : message.method = "initialize") :
    before.rendered .initialized raw = message.settings ∧
      before.rendered .uninitialized raw = [] := by
  have unready : before ≠ .initialized := by
    rw [waiting]
    exact Phase.noConfusion
  simp [rendered, read, unready, method]

end Phase

/-- What is published in a run of a session, in order. -/
def publicationsIn (reports : List (Report Outcome)) : List Publication :=
  reports.filterMap fun report => report.result.publication?

theorem publicationsIn_append (first second : List (Report Outcome)) :
    publicationsIn (first ++ second) = publicationsIn first ++ publicationsIn second :=
  List.filterMap_append

namespace Session

theorem publicationsIn_single (providers : Providers) (session : Session) (step : Step) :
    publicationsIn (session.run providers [step]).2 =
      (session.step providers step).2.result.publication?.toList := by
  simp only [run, publicationsIn, List.filterMap_cons, List.filterMap_nil]
  cases (session.step providers step).2.result.publication? <;> rfl

/-- The options that a message carries have the same effect whether the session or
the server applies them, and nothing is published. -/
theorem run_settings (providers : Providers) (session : Session) (message : Message) :
    (session.run providers message.settings).1 =
        (session.run providers (Server.applyOptions message.options?).1).1 ∧
      publicationsIn (session.run providers message.settings).2 = [] := by
  unfold Message.settings Server.applyOptions
  cases message.options? with
  | none => exact ⟨rfl, rfl⟩
  | some options =>
      dsimp only
      cases Configuration.ofOptions options with
      | error error => exact ⟨rfl, rfl⟩
      | ok configuration => exact ⟨rfl, rfl⟩

/-- A query ends with an answer or with the failure of its worker. -/
theorem result_query_cases (providers : Providers) (session : Session) (query : Query) :
    (∃ answer, (session.step providers (.query query)).2.result = .answered answer) ∨
      ∃ failure, (session.step providers (.query query)).2.result = .workerFailed failure := by
  simp only [step, ask, Report.result_after]
  cases (session.dispatch query).result with
  | ready answer => exact .inl ⟨answer, rfl⟩
  | running job =>
      simp only [Pending.await, Report.result_map]
      cases (job.run providers).result with
      | ok answer => exact .inl ⟨answer, rfl⟩
      | error failure => exact .inr ⟨failure, rfl⟩

end Session

namespace Server

/-- What is announced for an outcome publishes what the outcome publishes. -/
theorem publications_announce (uri : Uri) (outcome : Outcome) :
    (announce uri outcome).2.1.filterMap Notification.publication? =
      outcome.publication?.toList := by
  cases outcome with
  | published publication => cases publication <;> rfl
  | _ => rfl

/-- A message that changes a document is about that document. -/
theorem exists_subject? {message : Message} {step : Step} (found : message.step? = some step)
    (notice : step.isQuery = false) : ∃ uri, subject? step = some uri := by
  have named := (Message.step?_eq_some_iff.mp found).method
  cases step with
  | query query => cases notice
  | openText uri language text => exact ⟨uri, rfl⟩
  | change uri changes => exact ⟨uri, rfl⟩
  | close uri => exact ⟨uri, rfl⟩
  | save uri => exact ⟨uri, rfl⟩
  | _ => cases named

theorem publications_notify (providers : Providers) (session : Session) {step : Step} {uri : Uri}
    (about : subject? step = some uri) :
    (notify providers session step).2.publications =
      (session.step providers step).2.result.publication?.toList := by
  simp only [notify, about, Exchange.publications]
  exact publications_announce uri _

/-! ## One message -/

/-- The session keeps up with the server.  Their settings may differ only in a
connection that cannot come up. -/
structure Follows (providers : Providers) (server : Server) (session : Session) : Prop where
  documents : server.session.documents = session.documents
  session_eq : ∀ capabilities, providers.declaration.2 = .ok capabilities →
    server.session = session
  unready : ∀ panic, providers.declaration.2 = .error panic → server.phase ≠ .initialized

namespace Follows

variable {providers : Providers} {server : Server} {session : Session}

theorem eq_of_ready (follows : Follows providers server session)
    (ready : server.phase = .initialized) : server.session = session := by
  cases declared : providers.declaration.2 with
  | ok capabilities => exact follows.session_eq capabilities declared
  | error panic => exact absurd ready (follows.unready panic declared)

/-- While the connection is up, a step that both take keeps them together. -/
theorem of_step {next : Server} {step : Step} (follows : Follows providers server session)
    (ready : server.phase = .initialized) (phase : next.phase = server.phase)
    (taken : next.session = (server.session.step providers step).1) :
    Follows providers next (session.run providers [step]).1 := by
  have same : next.session = (session.step providers step).1 := by
    rw [taken, follows.eq_of_ready ready]
  refine ⟨congrArg Session.documents same, fun _ _ => same, ?_⟩
  intro panic declared
  rw [phase]
  exact follows.unready panic declared

/-- The start applies the options to the server.  The session takes their steps
only when the connection has come up. -/
theorem of_begin (follows : Follows providers server session) {raw : Json} {message : Message}
    (id : RequestId) {options : Option Json} (waiting : server.phase = .uninitialized)
    (read : Message.ofJson? raw = some message) (method : message.method = "initialize")
    (params : message.params.bind Params.startUp = some options) :
    let result := server.begin providers id options
    let taken := session.run providers (server.phase.rendered result.1.phase raw)
    Follows providers result.1 taken.1 ∧ publicationsIn taken.2 = [] := by
  intro result taken
  have rendered := Phase.rendered_of_startUp waiting read method
  cases declared : providers.declaration.2 with
  | ok capabilities =>
      have settings := session.run_settings providers message
      rw [Message.options?_of_startUp params] at settings
      have up := begin_of_declared server id options declared
      have steps : server.phase.rendered result.1.phase raw = message.settings := by
        rw [show result.1.phase = .initialized from congrArg Server.phase up]
        exact rendered.1
      have same : result.1.session = taken.1 := by
        simp only [taken, steps, settings.1]
        rw [← follows.session_eq capabilities declared]
        exact congrArg Server.session up
      refine ⟨⟨congrArg Session.documents same, fun _ _ => same, ?_⟩, ?_⟩
      · intro panic panicked
        rw [declared] at panicked
        cases panicked
      · simp only [taken, steps]
        exact settings.2
  | error panic =>
      have down := begin_of_panic server id options declared
      have phase : result.1.phase = .uninitialized :=
        (congrArg Server.phase down).trans waiting
      have steps : server.phase.rendered result.1.phase raw = [] := by
        rw [phase]
        exact rendered.2
      have documents : result.1.session.documents = server.session.documents :=
        (congrArg (fun server => server.session.documents) down).trans
          (run_applyOptions providers server.session options).1
      simp only [taken, steps]
      refine ⟨⟨documents.trans follows.documents, ?_, ?_⟩, rfl⟩
      · intro capabilities succeeded
        rw [declared] at succeeded
        cases succeeded
      · intro _ _
        rw [phase]
        exact Phase.noConfusion

/-- One message: the session takes the steps of the message, if there are any, and
keeps up with the server. -/
theorem of_handled (follows : Follows providers server session) {raw : Json}
    {result : Server × Exchange} (handled : Handled providers server raw result) :
    let taken := session.run providers (server.phase.rendered result.1.phase raw)
    Follows providers result.1 taken.1 ∧ result.2.publications = publicationsIn taken.2 := by
  cases handled with
  | passed same onward silent _ idle =>
      rw [Phase.rendered_of_idle onward idle]
      refine ⟨⟨?_, ?_, ?_⟩, silent⟩
      · rw [same]
        exact follows.documents
      · intro capabilities declared
        exact same.trans (follows.session_eq capabilities declared)
      · intro panic declared up
        exact follows.unready panic declared (onward.eq_initialized up)
  | @starts message id options waiting read method _ params =>
      have began := follows.of_begin id waiting read method params
      refine ⟨began.1, Eq.trans ?_ began.2.symm⟩
      rw [Exchange.publications, sent_begin]
      rfl
  | @changes message step ready read found notice =>
      rw [Phase.rendered_of_step? ready read found]
      refine ⟨follows.of_step ready rfl rfl, ?_⟩
      rcases exists_subject? found notice with ⟨uri, about⟩
      rw [Session.publicationsIn_single, ← follows.eq_of_ready ready]
      exact publications_notify providers server.session about
  | @asks message id query ready read _ found =>
      rw [Phase.rendered_of_step? ready read found]
      refine ⟨follows.of_step ready rfl rfl, ?_⟩
      have silent : (session.step providers (.query query)).2.result.publication? = none :=
        Pending.publication?_await providers (session.dispatch query).result
      rw [Session.publicationsIn_single, silent]
      rfl

end Follows

/-! ## All messages -/

/-- The session that takes the steps of all messages keeps up with the server, and
publishes what the server sends. -/
theorem Follows.run {providers : Providers} {server : Server} {session : Session}
    (follows : Follows providers server session) (messages : List Json) :
    let taken := session.run providers (server.translation providers messages)
    Follows providers (server.run providers messages).1 taken.1 ∧
      (server.run providers messages).2.flatMap Exchange.publications =
        publicationsIn taken.2 := by
  induction messages generalizing server session with
  | nil => exact ⟨follows, rfl⟩
  | cons raw rest ih =>
      have first := follows.of_handled (server.handled providers raw)
      have others := ih first.1
      simp only [Server.run, translation, Session.run_append, List.flatMap_cons,
        publicationsIn_append]
      refine ⟨others.1, ?_⟩
      rw [first.2, others.2]

theorem follows_initial (providers : Providers) : Follows providers {} {} where
  documents := rfl
  session_eq := fun _ _ => rfl
  unready := fun _ _ => Phase.noConfusion

end Server

/-- The response carries what became of a query: its answer, or an internal error
with the message of the failure. -/
def Response.Carries (response : Response) : Outcome → Prop
  | .answered answer => response.result = .ok answer.toJson
  | .workerFailed failure =>
      ∃ error, response.result = .error error ∧ error.code = -32603 ∧
        error.message = failure.message
  | _ => False

namespace Server

theorem carries_respond (providers : Providers) (session : Session) (id : RequestId)
    (query : Query) :
    ∃ response, (respond providers session id query).2.reply = .response (some response) ∧
      response.id = id ∧
      response.Carries (session.step providers (.query query)).2.result := by
  refine ⟨_, rfl, rfl, ?_⟩
  rcases session.result_query_cases providers query with ⟨answer, answered⟩ | ⟨failure, failed⟩
  · rw [answered]
    rfl
  · rw [failed]
    exact ⟨_, rfl, rfl, rfl⟩

theorem sent_notify_of_unsupported (providers : Providers) {session : Session} {uri : Uri}
    {language text refused : String}
    (fails : (session.step providers (.openText uri language text)).2.result =
      .unsupportedLanguage refused) :
    (notify providers session (.openText uri language text)).2.sent =
      [.logMessage .error
        ("Cannot open " ++ uri.text ++ ": " ++ ("unsupported language id: " ++ language))] := by
  cases classified : session.classifier.classify? language uri text with
  | none =>
      simp only [notify, subject?, Session.step, Session.openText, classified, announce]
      rfl
  | some document =>
      simp only [Session.step, Session.openText, classified, Session.store, Report.result_after,
        Report.result_map] at fails
      cases published : (session.publisher.onStored providers document).result with
      | ok publication =>
          rw [published] at fails
          cases fails
      | error panic =>
          rw [published] at fails
          cases fails

/-- The server runs a session.  The steps are those that messages ask for, as the
description of their methods and parameters says.

After every list of messages, the server has the documents of a session that took
the steps of these messages, and what the server has published is what the session
has published, in the same order.  If the connection is up and the next message
opens a document and the session refuses it, the client is sent one error message
and nothing else.  If the next message is a query, the response has its identifier
and carries what the session answers, or an internal error with the message of the
session's failure.  None of this needs a provider that does not panic. -/
theorem simulates_session (providers : Providers) :
    (∀ (message : Message) (step : Step),
      message.step? = some step ↔ message.AsksFor step) ∧
    ∀ messages : List Json,
      let served := run providers {} messages
      let taken := Session.run providers {} (translation providers {} messages)
      served.1.session.documents = taken.1.documents ∧
      served.2.flatMap Exchange.publications = publicationsIn taken.2 ∧
      ∀ raw message, Message.ofJson? raw = some message → served.1.phase = .initialized →
        let exchange := (served.1.handle providers raw).2
        (∀ uri language text, message.AsksFor (.openText uri language text) →
          ∀ refused, (taken.1.step providers (.openText uri language text)).2.result =
            .unsupportedLanguage refused →
          exchange.sent = [.logMessage .error
            ("Cannot open " ++ uri.text ++ ": " ++ ("unsupported language id: " ++ language))]) ∧
        ∀ id query, message.id = some id → message.AsksFor (.query query) →
          ∃ response, exchange.reply = .response (some response) ∧ response.id = id ∧
            response.Carries (taken.1.step providers (.query query)).2.result := by
  refine ⟨fun _ _ => Message.step?_eq_some_iff, ?_⟩
  intro messages served taken
  have together := (follows_initial providers).run messages
  refine ⟨together.1.documents, together.2, ?_⟩
  intro raw message read ready exchange
  have same := together.1.eq_of_ready ready
  have handled := served.1.handled providers raw
  constructor
  · intro uri language text asks refused fails
    have found := Message.step?_eq_some_iff.mpr asks
    rw [← same] at fails
    simp only [exchange, handled.eq_notify ready read found rfl]
    exact sent_notify_of_unsupported providers fails
  · intro id query identified asks
    have found := Message.step?_eq_some_iff.mpr asks
    rw [← same]
    simp only [exchange, handled.eq_respond ready read identified found]
    exact carries_respond providers served.1.session id query

/-- Options that are no configuration, an open in an unknown language, and a query
whose provider panics. -/
theorem simulates_session_panicking :
    let providers : Providers := ⟨fun _ _ => .error ⟨"bug"⟩, fun _ declared => .ok declared⟩
    let start : Json := .record
      [("jsonrpc", .str "2.0"), ("id", .int 1), ("method", .str "initialize"),
       ("params", .record
         [("capabilities", .record []), ("initializationOptions", .str "on")])]
    let opening (language : String) : Json := .record
      [("jsonrpc", .str "2.0"), ("method", .str "textDocument/didOpen"),
       ("params", .record
         [("textDocument", .record
           [("uri", .str "file:///a"), ("languageId", .str language), ("version", .int 1),
            ("text", .str "x")])])]
    let hover : Json := .record
      [("jsonrpc", .str "2.0"), ("id", .int 2), ("method", .str "textDocument/hover"),
       ("params", .record
         [("textDocument", .record [("uri", .str "file:///a")]),
          ("position", .record [("line", .int 0), ("character", .int 0)])])]
    let served := (run providers {} [start, opening "product.def"]).1
    served.phase = .initialized ∧
      (served.handle providers (opening "cobol")).2.sent =
        [.logMessage .error "Cannot open file:///a: unsupported language id: cobol"] ∧
      ∃ response, (served.handle providers hover).2.reply = .response (some response) ∧
        response.id = .number 2 ∧ ∃ error, response.result = .error error ∧
          error.code = -32603 ∧ error.message = WorkerFailure.message ⟨.hover, ⟨"bug"⟩⟩ := by
  intro providers start opening hover served
  have ready : served.phase = .initialized := rfl
  have law := ((simulates_session providers).2 [start, opening "product.def"]).2.2
  let uri : Uri := ⟨"file:///a", by decide⟩
  refine ⟨ready, ?_, ?_⟩
  · have refused := (law (opening "cobol") _ rfl ready).1
    exact refused uri "cobol" "x" (Message.step?_eq_some_iff.mp rfl) "cobol" rfl
  · have answered := (law hover _ rfl ready).2
    exact answered (.number 2) (.document uri (.hover ⟨0, 0⟩)) rfl
      (Message.step?_eq_some_iff.mp rfl)

end Server
end LanguageServer
