import LanguageServer.Session
import LanguageServer.Wire.Decode

namespace LanguageServer

/-!
Messages between client and server.  An incoming message names a method; it is
a request when it has an identifier and a notification otherwise.  A response
repeats the identifier of its request.
-/

/-- The identifier of a request. -/
inductive RequestId where
  | number (value : Int)
  | text (content : String)
  | null
  deriving DecidableEq, Repr

/-- An incoming message.  Null parameters are the same as none. -/
structure Message where
  method : String
  params : Option Json
  id : Option RequestId

/-- Reads a request identifier; numbers are signed 64-bit ones. -/
def RequestId.ofJson? : Json → Option RequestId
  | .null => some .null
  | .string (.text content) => some (.text content)
  | value => (value.intBetween? (-(Int.pow 2 63)) (Int.pow 2 63 - 1)).map .number

/-- The identifier as JSON. -/
def RequestId.toJson : RequestId → Json
  | .number value => .int value
  | .text content => .str content
  | .null => .null

/-- Reads a message, by key or by place.  It has to name version 2.0 of the
protocol; a message without a method has the empty method name. -/
def Message.ofJson? (value : Json) : Option Message := do
  let entries ← value.leading? ["jsonrpc", "method", "params", "id"]
  let version ← Json.required entries "jsonrpc" Json.text?
  guard (version = "2.0")
  let method ←
    match Json.lookup entries "method" with
    | none => some ""
    | some method => method.text?
  let params ← Json.optional entries "params" some
  let id ←
    match Json.lookup entries "id" with
    | none => some none
    | some id => (RequestId.ofJson? id).map some
  return { method, params, id }

/-- Why a request is refused or fails. -/
inductive ResponseError where
  | notInitialized
  | invalidRequest
  | unknownMethod (method : String)
  | notImplemented
  | invalidParams
  | internal (message : String)
  deriving DecidableEq, Repr

namespace ResponseError

/-- The code of an error. -/
def code : ResponseError → Int
  | .notInitialized => -32002
  | .invalidRequest => -32600
  | .unknownMethod _ => -32601
  | .notImplemented => -32601
  | .invalidParams => -32602
  | .internal _ => -32603

/-- The wording of an error. -/
def message : ResponseError → String
  | .notInitialized => "Server not initialized"
  | .invalidRequest => "Invalid request"
  | .unknownMethod _ => "Method not found"
  | .notImplemented => "Method not found"
  | .invalidParams => "Invalid params"
  | .internal message => message

/-- What an error says beyond its wording. -/
def data? : ResponseError → Option Json
  | .unknownMethod method => some (.str method)
  | _ => none

end ResponseError

/-- The answer to a request. -/
structure Response where
  id : RequestId
  result : Except ResponseError Json

/-- The response as JSON. -/
def Response.toJson (response : Response) : Json :=
  .record
    [("jsonrpc", .str "2.0"), ("id", response.id.toJson),
     match response.result with
     | .ok value => ("result", value)
     | .error error =>
         ("error",
           .sparse
             [("code", some (.int error.code)), ("message", some (.str error.message)),
              ("data", error.data?)])]

/-- The severities of messages to be shown in the client's log. -/
inductive Severity where
  | error
  | info
  deriving DecidableEq, Repr

/-- The number of a severity. -/
def Severity.number : Severity → Nat
  | .error => 1
  | .info => 3

/-- What the server sends on its own account. -/
inductive Notification where
  | publishDiagnostics (publication : Publication)
  | logMessage (severity : Severity) (message : String)

/-- The notification as JSON. -/
def Notification.toJson (notification : Notification) : Json :=
  let (method, params) :=
    match notification with
    | .publishDiagnostics publication =>
        ("textDocument/publishDiagnostics", publication.toJson)
    | .logMessage severity message =>
        ("window/logMessage",
          Json.record [("type", .nat severity.number), ("message", .str message)])
  .record [("jsonrpc", .str "2.0"), ("method", .str method), ("params", params)]

end LanguageServer
