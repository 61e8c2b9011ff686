import LanguageServer.Server.Message
import LanguageServer.Server.Route

namespace LanguageServer

/-!
Taking in messages.  What a message amounts to depends on the message, on the
phase of the connection and on the requests left unfinished, not on the
documents.  The phase is
checked before the parameters are read, and the parameters before anything
happens.
-/

/-- The phases of a connection. -/
inductive Phase where
  | uninitialized
  | initialized
  | shutDown
  | exited
  deriving DecidableEq, Repr

/-- What a message amounts to. -/
inductive Intake where
  /-- Not a message of the protocol. -/
  | malformed
  /-- A message after the connection has ended. -/
  | afterExit
  /-- Answered, or left unanswered, without further effect. -/
  | settled (response : Option Response)
  /-- A request need not be finished any more. -/
  | withdraw (id : RequestId)
  /-- The start of a connection, with the options of the client. -/
  | begin (id : RequestId) (options : Option Json)
  /-- The client is ready. -/
  | greet
  /-- The orderly end of work. -/
  | finish (id : RequestId)
  /-- A change to a document. -/
  | notified (step : Step)
  /-- A query. -/
  | asked (id : RequestId) (query : Query)

namespace Message

/-- Refuses a request; a notification is dropped. -/
def refuse (message : Message) (error : ResponseError) : Intake :=
  .settled (message.id.map fun id => ⟨id, .error error⟩)

/-- Refuses a request in a phase in which it is not served. -/
def refuseIn (message : Message) (phase : Phase) : Intake :=
  message.refuse (if phase = .uninitialized then .notInitialized else .invalidRequest)

/-- Takes a request in, when it has an identifier and readable parameters. -/
def takeRequest {α : Type} (message : Message) (read : Json → Option α)
    (accept : RequestId → α → Intake) : Intake :=
  match message.id with
  | none => .settled none
  | some id =>
      match message.params.bind read with
      | none => .settled (some ⟨id, .error .invalidParams⟩)
      | some value => accept id value

/-- Takes a notification in, when it has no identifier and readable
parameters. -/
def takeNotification {α : Type} (message : Message) (read : Json → Option α)
    (accept : α → Intake) : Intake :=
  match message.id with
  | some id => .settled (some ⟨id, .error .invalidRequest⟩)
  | none =>
      match message.params.bind read with
      | none => .settled none
      | some value => accept value

/-- A method that is not one of the protocol.  Methods behind a dollar sign
and a slash may be left unanswered. -/
def unknown (message : Message) : Intake :=
  if "$/".toList.isPrefixOf message.method.toList then .settled none
  else message.refuse (.unknownMethod message.method)

/-- Takes in a message of an initialized connection. -/
def take (message : Message) : Route → Intake
  | .initialized => message.takeNotification Params.initialized fun _ => .greet
  | .notification read => message.takeNotification read .notified
  | .request read => message.takeRequest read .asked
  | .ignored => message.takeNotification some fun _ => .settled none
  | .unserved shape =>
      message.takeRequest shape.check fun id _ => .settled (some ⟨id, .error .notImplemented⟩)
  | _ => .settled none

/-- Takes in the request that starts a connection.  The identifier of an
unfinished request cannot be used again. -/
def takeStartUp (message : Message) (unfinished : List RequestId) : Intake :=
  if message.id.any unfinished.contains then message.refuse .invalidRequest
  else message.takeRequest Params.startUp .begin

/-- Takes in the request that ends the work.  It takes no parameters. -/
def takeShutdown (message : Message) : Intake :=
  match message.id, message.params with
  | none, _ => .settled none
  | some id, some _ => .settled (some ⟨id, .error .invalidParams⟩)
  | some id, none => .finish id

end Message

namespace Phase

/-- Takes in a message: the next phase and what the message amounts to.  The
start of a connection leaves the phase to its outcome. -/
def receive (phase : Phase) (unfinished : List RequestId) (raw : Json) : Phase × Intake :=
  match Message.ofJson? raw with
  | none => (phase, .malformed)
  | some message =>
      if phase = .exited then (phase, .afterExit)
      else
        match Route.ofMethod? message.method with
        | none => (phase, message.unknown)
        | some .exit => (.exited, .settled none)
        | some .cancel =>
            (phase, message.takeNotification Params.cancel .withdraw)
        | some .startUp =>
            if phase = .uninitialized then (phase, message.takeStartUp unfinished)
            else (phase, message.refuse .invalidRequest)
        | some .shutdown =>
            if phase = .initialized then (.shutDown, message.takeShutdown)
            else (phase, message.refuseIn phase)
        | some route =>
            if phase = .initialized then (phase, message.take route)
            else (phase, message.refuseIn phase)

end Phase
end LanguageServer
