import LanguageServer.Proofs.Server.Demand

namespace LanguageServer

/-!
# What a message can do

A message reaches the session of a server in three ways only.  Before the
connection is up it can start it; afterwards it can change a document or ask a
query.  Whatever else a message does, it leaves the session alone, calls no
provider and publishes nothing, and what it does then depends on the phase and on
the unfinished requests but not on the session.

No message takes a connection back to an earlier phase, and only the start brings
it up.
-/

/-! ## Taking messages in -/

/-- Whether the message does not reach the session. -/
def Intake.passive : Intake → Bool
  | .begin _ _ => false
  | .notified _ => false
  | .asked _ _ => false
  | _ => true

/-- Whether the method serves documents or queries. -/
def Route.serves : Route → Bool
  | .notification _ => true
  | .request _ => true
  | _ => false

/-- The options in the parameters of a message; null is the same as absence. -/
def Message.options? (message : Message) : Option Json := do
  let entries ← (← message.params).entries?
  (← Json.optional entries "initializationOptions" some)

theorem Message.options?_of_startUp {message : Message} {options : Option Json}
    (read : message.params.bind Params.startUp = some options) :
    message.options? = options := by
  rcases Option.bind_eq_some_iff.mp read with ⟨params, given, reads⟩
  simp only [Params.startUp, Option.bind_eq_bind, Option.bind_eq_some_iff] at reads
  rcases reads with ⟨_, _, entries, opened, found⟩
  simp only [options?, given, Option.bind_eq_bind, Option.bind_some, opened, found]

namespace Phase

/-- The connection stays in its phase, or it is on its way to the end. -/
def Onward (before after : Phase) : Prop :=
  after = before ∨ after = .shutDown ∨ after = .exited

theorem Onward.eq_initialized {before after : Phase} (onward : before.Onward after)
    (up : after = .initialized) : before = .initialized := by
  rcases onward with rfl | rfl | rfl
  · exact up
  · cases up
  · cases up

theorem Onward.eq_uninitialized {before after : Phase} (onward : before.Onward after)
    (waits : after = .uninitialized) : before = .uninitialized := by
  rcases onward with rfl | rfl | rfl
  · exact waits
  · cases waits
  · cases waits

/-- What can become of a message in a phase.  A message that reaches the session
is one that can be read, and the connection is in the right phase for it. -/
inductive Received (phase : Phase) (raw : Json) : Phase × Intake → Prop where
  | passed {next : Phase} {intake : Intake} (passive : intake.passive = true)
      (onward : phase.Onward next)
      (idle : phase = .initialized → ∀ message, Message.ofJson? raw = some message →
        message.step? = none) :
      Received phase raw (next, intake)
  | starts {message : Message} {id : RequestId} {options : Option Json}
      (waiting : phase = .uninitialized) (read : Message.ofJson? raw = some message)
      (method : message.method = "initialize") (identified : message.id = some id)
      (params : message.params.bind Params.startUp = some options) :
      Received phase raw (.uninitialized, .begin id options)
  | changes {message : Message} {step : Step}
      (ready : phase = .initialized) (read : Message.ofJson? raw = some message)
      (found : message.step? = some step) (notice : step.isQuery = false) :
      Received phase raw (.initialized, .notified step)
  | asks {message : Message} {id : RequestId} {query : Query}
      (ready : phase = .initialized) (read : Message.ofJson? raw = some message)
      (identified : message.id = some id) (found : message.step? = some (.query query)) :
      Received phase raw (.initialized, .asked id query)

end Phase

namespace Message

variable {message : Message}

/-- A notification that is taken in goes on to what accepts its parameters; any
other is settled. -/
theorem takeNotification_cases {α : Type} (message : Message) (read : Json → Option α)
    (accept : α → Intake) :
    (∃ value, message.id = none ∧ message.params.bind read = some value ∧
        message.takeNotification read accept = accept value) ∨
      ((message.id = none → message.params.bind read = none) ∧
        ∃ response, message.takeNotification read accept = .settled response) := by
  unfold takeNotification
  cases message.id with
  | some id => exact .inr ⟨(nomatch ·), _, rfl⟩
  | none =>
      cases message.params.bind read with
      | none => exact .inr ⟨fun _ => rfl, _, rfl⟩
      | some value => exact .inl ⟨value, rfl, rfl, rfl⟩

theorem takeRequest_cases {α : Type} (message : Message) (read : Json → Option α)
    (accept : RequestId → α → Intake) :
    (∃ id value, message.id = some id ∧ message.params.bind read = some value ∧
        message.takeRequest read accept = accept id value) ∨
      ((message.id ≠ none → message.params.bind read = none) ∧
        ∃ response, message.takeRequest read accept = .settled response) := by
  unfold takeRequest
  cases message.id with
  | none => exact .inr ⟨fun identified => absurd rfl identified, _, rfl⟩
  | some id =>
      cases message.params.bind read with
      | none => exact .inr ⟨fun _ => rfl, _, rfl⟩
      | some value => exact .inl ⟨id, value, rfl, rfl, rfl⟩

theorem passive_takeNotification {α : Type} (message : Message) (read : Json → Option α)
    {accept : α → Intake} (passive : ∀ value, (accept value).passive = true) :
    (message.takeNotification read accept).passive = true := by
  rcases message.takeNotification_cases read accept with
    ⟨value, _, _, taken⟩ | ⟨_, response, taken⟩
  · rw [taken]
    exact passive value
  · rw [taken]
    rfl

theorem passive_takeRequest {α : Type} (message : Message) (read : Json → Option α)
    {accept : RequestId → α → Intake} (passive : ∀ id value, (accept id value).passive = true) :
    (message.takeRequest read accept).passive = true := by
  rcases message.takeRequest_cases read accept with
    ⟨id, value, _, _, taken⟩ | ⟨_, response, taken⟩
  · rw [taken]
    exact passive id value
  · rw [taken]
    rfl

theorem passive_unknown (message : Message) : message.unknown.passive = true := by
  unfold unknown
  split <;> rfl

theorem passive_takeShutdown (message : Message) : message.takeShutdown.passive = true := by
  unfold takeShutdown
  split <;> rfl

/-- A method that serves neither documents nor queries asks for no step. -/
theorem step?_of_not_serves {route : Route}
    (routed : Route.ofMethod? message.method = some route) (idle : route.serves = false) :
    message.step? = none := by
  unfold step?
  rw [routed]
  cases route with
  | notification read => cases idle
  | request read => cases idle
  | _ => rfl

theorem step?_of_notification {read : Json → Option Step}
    (routed : Route.ofMethod? message.method = some (.notification read))
    (notified : message.id = none) : message.step? = message.params.bind read := by
  simp only [step?, routed, notified]

theorem step?_of_request {read : Json → Option Query} {id : RequestId}
    (routed : Route.ofMethod? message.method = some (.request read))
    (identified : message.id = some id) :
    message.step? = (message.params.bind read).map .query := by
  simp only [step?, routed, identified]

end Message

namespace Phase

section Inversion

variable {raw : Json} {message : Message}

theorem Received.of_step?_eq_none {phase next : Phase} {intake : Intake}
    (read : Message.ofJson? raw = some message) (nothing : message.step? = none)
    (passive : intake.passive = true)
    (onward : phase.Onward next) :
    Received phase raw (next, intake) := by
  refine .passed passive onward ?_
  intro _ other found
  rw [read] at found
  rw [← Option.some.inj found]
  exact nothing

theorem Received.of_not_initialized {phase next : Phase} {intake : Intake}
    (unready : phase ≠ .initialized) (passive : intake.passive = true)
    (onward : phase.Onward next) :
    Received phase raw (next, intake) :=
  .passed passive onward fun ready => absurd ready unready

theorem received_take {route : Route} (read : Message.ofJson? raw = some message)
    (routed : Route.ofMethod? message.method = some route) :
    Received .initialized raw (.initialized, message.take route) := by
  cases route with
  | notification reader =>
      rcases message.takeNotification_cases reader .notified with
        ⟨step, notified, reads, taken⟩ | ⟨unread, response, taken⟩
      · rw [Message.take, taken]
        have found := (Message.step?_of_notification routed notified).trans reads
        have asks := Message.step?_eq_some_iff.mp found
        refine .changes rfl read found ?_
        rw [← asks.id, notified]
        rfl
      · rw [Message.take, taken]
        refine .of_step?_eq_none read ?_ rfl (.inl rfl)
        cases identified : message.id with
        | none =>
            exact (Message.step?_of_notification routed identified).trans (unread identified)
        | some id => simp only [Message.step?, routed, identified]
  | request reader =>
      rcases message.takeRequest_cases reader .asked with
        ⟨id, query, identified, reads, taken⟩ | ⟨unread, response, taken⟩
      · rw [Message.take, taken]
        refine .asks rfl read identified ?_
        rw [Message.step?_of_request routed identified, reads]
        rfl
      · rw [Message.take, taken]
        refine .of_step?_eq_none read ?_ rfl (.inl rfl)
        cases identified : message.id with
        | none => simp only [Message.step?, routed, identified]
        | some id =>
            rw [Message.step?_of_request routed identified, unread (by simp [identified])]
            rfl
  | initialized =>
      exact .of_step?_eq_none read (Message.step?_of_not_serves routed rfl)
        (message.passive_takeNotification _ fun _ => rfl) (.inl rfl)
  | ignored =>
      exact .of_step?_eq_none read (Message.step?_of_not_serves routed rfl)
        (message.passive_takeNotification _ fun _ => rfl) (.inl rfl)
  | unserved shape =>
      exact .of_step?_eq_none read (Message.step?_of_not_serves routed rfl)
        (message.passive_takeRequest _ fun _ _ => rfl) (.inl rfl)
  | _ =>
      exact .of_step?_eq_none read (Message.step?_of_not_serves routed rfl) rfl (.inl rfl)

theorem received_takeStartUp (unfinished : List RequestId)
    (read : Message.ofJson? raw = some message)
    (routed : Route.ofMethod? message.method = some .startUp) :
    Received .uninitialized raw (.uninitialized, message.takeStartUp unfinished) := by
  have nothing := Message.step?_of_not_serves routed rfl
  unfold Message.takeStartUp
  split
  · exact .of_step?_eq_none read nothing rfl (.inl rfl)
  · rcases message.takeRequest_cases Params.startUp .begin with
      ⟨id, options, identified, reads, taken⟩ | ⟨_, response, taken⟩
    · rw [taken]
      have member := Route.mem_all_of_ofMethod? routed
      have method : message.method = "initialize" := by
        simpa [Route.all, Route.connection, Route.served_eq, Route.notices] using member
      exact .starts rfl read method identified reads
    · rw [taken]
      exact .of_step?_eq_none read nothing rfl (.inl rfl)

end Inversion

/-- This is all that can become of a message. -/
theorem received (phase : Phase) (unfinished : List RequestId) (raw : Json) :
    Received phase raw (phase.receive unfinished raw) := by
  fun_cases receive phase unfinished raw with
  | case1 unread =>
      refine .passed rfl (.inl rfl) ?_
      intro _ message read
      rw [unread] at read
      cases read
  | case2 message read ended => exact .of_not_initialized (by simp [ended]) rfl (.inl rfl)
  | case3 message read _ unrouted =>
      have nothing : message.step? = none := by simp only [Message.step?, unrouted]
      exact .of_step?_eq_none read nothing message.passive_unknown (.inl rfl)
  | case4 message read _ routed =>
      have nothing := Message.step?_of_not_serves routed rfl
      exact .of_step?_eq_none read nothing rfl (.inr (.inr rfl))
  | case5 message read _ routed =>
      have nothing := Message.step?_of_not_serves routed rfl
      exact .of_step?_eq_none read nothing
        (message.passive_takeNotification _ fun _ => rfl) (.inl rfl)
  | case6 message read _ routed waiting =>
      rw [waiting]
      exact received_takeStartUp unfinished read routed
  | case7 message read _ routed _ =>
      have nothing := Message.step?_of_not_serves routed rfl
      exact .of_step?_eq_none read nothing rfl (.inl rfl)
  | case8 message read _ routed _ =>
      have nothing := Message.step?_of_not_serves routed rfl
      exact .of_step?_eq_none read nothing message.passive_takeShutdown (.inr (.inl rfl))
  | case9 message read _ routed unready => exact .of_not_initialized unready rfl (.inl rfl)
  | case10 message read _ route _ _ _ _ routed ready =>
      rw [ready]
      exact received_take read routed
  | case11 message read _ route _ _ _ _ routed unready =>
      exact .of_not_initialized unready rfl (.inl rfl)

end Phase

/-! ## Carrying messages out -/

/-- The publication that a notification carries. -/
def Notification.publication? : Notification → Option Publication
  | .publishDiagnostics publication => some publication
  | .logMessage _ _ => none

/-- What is published in an exchange, in order. -/
def Exchange.publications (exchange : Exchange) : List Publication :=
  exchange.sent.filterMap Notification.publication?

namespace Server

/-- What can become of a message at a server. -/
inductive Handled (providers : Providers) (server : Server) (raw : Json) :
    Server × Exchange → Prop where
  | passed {handled : Server × Exchange}
      (session : handled.1.session = server.session)
      (onward : server.phase.Onward handled.1.phase)
      (publications : handled.2.publications = []) (invocations : handled.2.invocations = [])
      (idle : server.phase = .initialized → ∀ message, Message.ofJson? raw = some message →
        message.step? = none) :
      Handled providers server raw handled
  | starts {message : Message} {id : RequestId} {options : Option Json}
      (waiting : server.phase = .uninitialized) (read : Message.ofJson? raw = some message)
      (method : message.method = "initialize") (identified : message.id = some id)
      (params : message.params.bind Params.startUp = some options) :
      Handled providers server raw (server.begin providers id options)
  | changes {message : Message} {step : Step}
      (ready : server.phase = .initialized) (read : Message.ofJson? raw = some message)
      (found : message.step? = some step) (notice : step.isQuery = false) :
      Handled providers server raw (server.lift (notify providers server.session step))
  | asks {message : Message} {id : RequestId} {query : Query}
      (ready : server.phase = .initialized) (read : Message.ofJson? raw = some message)
      (identified : message.id = some id) (found : message.step? = some (.query query)) :
      Handled providers server raw (server.lift (respond providers server.session id query))

/-- A message that does not reach the session does the same whatever the session
is. -/
theorem perform_of_passive (providers : Providers) (phase : Phase)
    (unfinished : List RequestId) {intake : Intake} (passive : intake.passive = true) :
    ∃ exchange still, exchange.publications = [] ∧ exchange.invocations = [] ∧
      ∀ session : Session, perform providers ⟨phase, session, unfinished⟩ intake =
        (⟨phase, session, still⟩, exchange) := by
  cases intake with
  | begin id options => cases passive
  | notified step => cases passive
  | asked id query => cases passive
  | withdraw id => exact ⟨{}, unfinished.filter (· ≠ id), rfl, rfl, fun _ => rfl⟩
  | _ => exact ⟨_, unfinished, rfl, rfl, fun _ => rfl⟩

theorem handled_of_received {providers : Providers} {server : Server} {raw : Json}
    {received : Phase × Intake} (possible : server.phase.Received raw received) :
    Handled providers server raw
      (perform providers { server with phase := received.1 } received.2) := by
  rcases server with ⟨phase, session, unfinished⟩
  cases possible with
  | @passed next intake passive onward idle =>
      rcases perform_of_passive providers next unfinished passive with
        ⟨exchange, still, publications, invocations, performed⟩
      rw [performed session]
      exact .passed rfl onward publications invocations idle
  | starts waiting read method identified params =>
      cases waiting
      exact .starts rfl read method identified params
  | changes ready read found notice =>
      cases ready
      exact .changes rfl read found notice
  | asks ready read identified found =>
      cases ready
      exact .asks rfl read identified found

section Ready

variable {providers : Providers} {server : Server} {raw : Json} {message : Message}
  {result : Server × Exchange}

/-- While the connection is up, a message that asks for a change has no other
effect than the change. -/
theorem Handled.eq_notify (handled : Handled providers server raw result)
    (ready : server.phase = .initialized) (read : Message.ofJson? raw = some message)
    {step : Step} (found : message.step? = some step) (notice : step.isQuery = false) :
    result = server.lift (notify providers server.session step) := by
  cases handled with
  | passed _ _ _ _ idle =>
      rw [idle ready message read] at found
      cases found
  | starts waiting =>
      rw [waiting] at ready
      cases ready
  | changes _ same other _ =>
      rw [read] at same
      cases same
      rw [found] at other
      cases other
      rfl
  | asks _ same _ other =>
      rw [read] at same
      cases same
      rw [found] at other
      cases other
      cases notice

theorem Handled.eq_respond (handled : Handled providers server raw result)
    (ready : server.phase = .initialized) (read : Message.ofJson? raw = some message)
    {id : RequestId} (identified : message.id = some id) {query : Query}
    (found : message.step? = some (.query query)) :
    result = server.lift (respond providers server.session id query) := by
  cases handled with
  | passed _ _ _ _ idle =>
      rw [idle ready message read] at found
      cases found
  | starts waiting =>
      rw [waiting] at ready
      cases ready
  | changes _ same other notice =>
      rw [read] at same
      cases same
      rw [found] at other
      cases other
      cases notice
  | asks _ same given other =>
      rw [read] at same
      cases same
      rw [found] at other
      rw [identified] at given
      cases other
      cases given
      rfl

end Ready

/-- This is all that can become of a message at a server. -/
theorem handled (providers : Providers) (server : Server) (raw : Json) :
    Handled providers server raw (server.handle providers raw) :=
  handled_of_received (server.phase.received server.unfinished raw)

theorem run_append (providers : Providers) (server : Server) (first second : List Json) :
    server.run providers (first ++ second) =
      (((server.run providers first).1.run providers second).1,
        (server.run providers first).2 ++
          ((server.run providers first).1.run providers second).2) := by
  induction first generalizing server with
  | nil => rfl
  | cons raw rest ih => simp only [List.cons_append, run, ih]

/-! ## Starting a connection -/

/-- Options change settings only, and this calls no provider. -/
theorem run_applyOptions (providers : Providers) (session : Session) (options : Option Json) :
    (session.run providers (applyOptions options).1).1.documents = session.documents ∧
      (session.run providers (applyOptions options).1).2.flatMap Report.calls = [] := by
  cases options with
  | none => exact ⟨rfl, rfl⟩
  | some value =>
      simp only [applyOptions]
      cases Configuration.ofOptions value with
      | error error => exact ⟨rfl, rfl⟩
      | ok configuration => exact ⟨rfl, rfl⟩

section Start

variable {providers : Providers} (server : Server) (id : RequestId) (options : Option Json)

theorem begin_of_declared {capabilities : Capabilities}
    (declared : providers.declaration.2 = .ok capabilities) :
    (server.begin providers id options).1 =
      { server with
        phase := .initialized
        session := (server.session.run providers (applyOptions options).1).1 } := by
  simp only [begin, declared]

theorem begin_of_panic {panic : Panic} (declared : providers.declaration.2 = .error panic) :
    (server.begin providers id options).1 =
      { server with
        session := (server.session.run providers (applyOptions options).1).1
        unfinished := id :: server.unfinished } := by
  simp only [begin, declared]

theorem sent_begin : (server.begin providers id options).2.sent = [] := by
  cases declared : providers.declaration.2 with
  | ok capabilities => simp only [begin, declared]
  | error panic => simp only [begin, declared]

end Start

end Server
end LanguageServer
