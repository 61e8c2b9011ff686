import LanguageServer.Server.Intake

namespace LanguageServer

/-!
The server.  It puts the protocol of a connection in front of a session:
messages about documents and queries become steps of the session, and the
outcomes of steps become responses and notifications.
-/

/-- The state of a server. -/
structure Server where
  phase : Phase := .uninitialized
  session : Session := {}
  /-- The requests that a panic has cut short.  Each stays unfinished until it
  is cancelled. -/
  unfinished : List RequestId := []

/-- A use of the providers. -/
inductive Invocation where
  | called (call : Call)
  | declared (slot : Slot)

/-- The name of a use. -/
def Invocation.name : Invocation → String
  | .called call => call.method.name
  | .declared slot => "set_capabilities:" ++ slot.name

/-- How a message is answered. -/
inductive Reply where
  | response (response : Option Response)
  | malformed
  | afterExit
  | panicked

/-- Everything that handling one message brings about outside the server. -/
structure Exchange where
  reply : Reply := .response none
  sent : List Notification := []
  invocations : List Invocation := []
  log : List LogEvent := []

namespace Server

/-- The name and the version under which the server presents itself. -/
def info : Json := .record [("name", .str "magik-lsp"), ("version", .str "0.3.0")]

/-- The result of the request that starts a connection. -/
def welcome (capabilities : Capabilities) : Json :=
  .record [("capabilities", .object capabilities), ("serverInfo", info)]

/-- The steps that apply a configuration to a session. -/
def configuring (configuration : Configuration) : List Step :=
  [.setFormatting configuration.formatting,
   .configure configuration.analysis configuration.diagnostics]

/-- What the options of a client come to: steps for the session, and events.
Options that are no configuration have no effect as a whole. -/
def applyOptions : Option Json → List Step × List LogEvent
  | none => ([], [])
  | some options =>
      match Configuration.ofOptions options with
      | .ok configuration => (configuring configuration, [.applyingConfiguration configuration])
      | .error error => ([], [.optionsIgnored error])

/-- What is sent and answered for the outcome of a step on a document. -/
def announce (uri : Uri) : Outcome → Reply × List Notification × List LogEvent
  | .published (some publication) =>
      (.response none, [.publishDiagnostics publication], [])
  | .unsupportedLanguage language =>
      (.response none,
        [.logMessage .error ("Cannot open " ++ uri.text ++ ": " ++ unsupportedLanguage language)],
        [.openFailed uri language])
  | .panicked _ => (.panicked, [], [])
  | _ => (.response none, [], [])

/-- The identifier of the document a notification is about. -/
def subject? : Step → Option Uri
  | .openText uri _ _ => some uri
  | .change uri _ => some uri
  | .close uri => some uri
  | .save uri => some uri
  | _ => none

/-- Events logged before a step that a notification asks for. -/
def foretold : Step → List LogEvent
  | .change uri _ => [.documentChanged uri]
  | _ => []

/-- Takes the step a notification asks for. -/
def notify (providers : Providers) (session : Session) (step : Step) : Session × Exchange :=
  let taken := session.step providers step
  let report := taken.2
  let announced :=
    match subject? step with
    | some uri => announce uri report.result
    | none => (.response none, [], [])
  (taken.1,
    { reply := announced.1
      sent := announced.2.1
      invocations := report.calls.map .called
      log := foretold step ++ report.log ++ announced.2.2 })

/-- The result that a response to a query carries. -/
def resultOf : Outcome → Except ResponseError Json
  | .answered answer => .ok answer.toJson
  | .workerFailed failure => .error (.internal failure.message)
  | _ => .ok .null

/-- Answers a query. -/
def respond (providers : Providers) (session : Session) (id : RequestId) (query : Query) :
    Session × Exchange :=
  let taken := session.step providers (.query query)
  (taken.1,
    { reply := .response (some ⟨id, resultOf taken.2.result⟩)
      invocations := taken.2.calls.map .called
      log := taken.2.log })

/-- Starts a connection.  The options take effect first.  When a provider panics
over its declaration, the connection is not started. -/
def begin (providers : Providers) (server : Server) (id : RequestId)
    (options : Option Json) : Server × Exchange :=
  let applied := applyOptions options
  let taken := server.session.run providers applied.1
  let declared := providers.declaration
  let exchange : Exchange :=
    { invocations := (taken.2.flatMap Report.calls).map .called ++ declared.1.map .declared
      log := .initializing :: applied.2 ++ taken.2.flatMap Report.log }
  match declared.2 with
  | .ok capabilities =>
      ({ server with phase := .initialized, session := taken.1 },
        { exchange with reply := .response (some ⟨id, .ok (welcome capabilities)⟩) })
  | .error _ =>
      ({ server with session := taken.1, unfinished := id :: server.unfinished },
        { exchange with reply := .panicked })

/-- Gives the outcome of work on the session to the server. -/
def lift (server : Server) (performed : Session × Exchange) : Server × Exchange :=
  ({ server with session := performed.1 }, performed.2)

/-- Carries out what a message amounts to. -/
def perform (providers : Providers) (server : Server) : Intake → Server × Exchange
  | .malformed => (server, { reply := .malformed })
  | .afterExit => (server, { reply := .afterExit })
  | .settled response => (server, { reply := .response response })
  | .withdraw id => ({ server with unfinished := server.unfinished.filter (· ≠ id) }, {})
  | .begin id options => begin providers server id options
  | .greet =>
      (server, { sent := [.logMessage .info "magik-lsp ready"], log := [.initialized] })
  | .finish id =>
      (server, { reply := .response (some ⟨id, .ok .null⟩), log := [.shuttingDown] })
  | .notified step => server.lift (notify providers server.session step)
  | .asked id query => server.lift (respond providers server.session id query)

/-- Handles one message. -/
def handle (providers : Providers) (server : Server) (message : Json) : Server × Exchange :=
  let received := server.phase.receive server.unfinished message
  perform providers { server with phase := received.1 } received.2

/-- Handles messages one after another. -/
def run (providers : Providers) (server : Server) : List Json → Server × List Exchange
  | [] => (server, [])
  | first :: rest =>
      let handled := server.handle providers first
      let others := handled.1.run providers rest
      (others.1, handled.2 :: others.2)

end Server
end LanguageServer
