import DuplexRpc.Wire.Id
import DuplexRpc.Wire.RpcError

/-!
What travels on the wire. Outbound traffic is typed: a request always carries a request id and a
notification never does. Inbound traffic arrives as one permissive envelope, since a peer sends
calls and answers over the same channel; nothing it sends fails to be read merely for being
unusual.
-/

namespace DuplexRpc.Wire

open DuplexRpc.Json

def protocolVersion : String := "2.0"

def optionalMember (name : String) (v : Option Value) : Members :=
  (v.map fun v => (name, v)).toList

/-! ## Outbound -/

structure Request where
  jsonrpc : String := protocolVersion
  method : String
  id : RequestId
  params : Option Value
  deriving Repr

/-- A call that expects none; its id is written as zero. -/
structure Notification where
  jsonrpc : String := protocolVersion
  method : String
  params : Option Value
  deriving Repr

structure Response where
  jsonrpc : String := protocolVersion
  id : Id
  result : Option Value
  error : Option RpcError
  deriving Repr

def Response.success (id : Id) (result : Value) : Response :=
  { id, result := some result, error := none }

def Response.failure (id : Id) (error : RpcError) : Response :=
  { id, result := none, error := some error }

def Request.members (r : Request) : Members :=
  [("jsonrpc", .string r.jsonrpc), ("method", .string r.method), ("id", r.id.toValue)] ++
    optionalMember "params" r.params

def Notification.members (n : Notification) : Members :=
  [("jsonrpc", .string n.jsonrpc), ("method", .string n.method), ("id", .int 0)] ++
    optionalMember "params" n.params

def Response.members (r : Response) : Members :=
  [("jsonrpc", .string r.jsonrpc), ("id", r.id.toValue)] ++
    optionalMember "result" r.result ++ optionalMember "error" (r.error.map RpcError.toValue)

inductive OutboundMessage where
  | request (r : Request)
  | notification (n : Notification)
  | response (r : Response)
  deriving Repr

def OutboundMessage.method? : OutboundMessage → Option String
  | .request r => some r.method
  | .notification n => some n.method
  | .response _ => none

def OutboundMessage.members : OutboundMessage → Members
  | .request r => r.members
  | .notification n => n.members
  | .response r => r.members

/-! ## Inbound -/

structure Message where
  jsonrpc : Option String := none
  method : Option String := none
  id : Id := .null
  params : Option Value := none
  result : Option Value := none
  /-- Kept as it came until the answer is settled. -/
  error : Option Value := none
  deriving Repr

structure InboundRequest where
  method : String
  id : Id
  params : Option Value
  deriving Repr

def InboundRequest.isNotification (r : InboundRequest) : Bool := r.id.isSentinel

namespace Message

def members (m : Message) : Members :=
  optionalMember "jsonrpc" (m.jsonrpc.map .string) ++
    optionalMember "method" (m.method.map .string) ++ [("id", m.id.toValue)] ++
    optionalMember "params" m.params ++ optionalMember "result" m.result ++
    optionalMember "error" m.error

def isRequest (m : Message) : Bool := m.method.isSome

/-- The request of ours that this message could answer, whether or not it is a call as well. -/
def responseId? (m : Message) : Option RequestId := m.id.requestId?

/-- The error member, where any value but a well-formed error object becomes an internal error
that carries it. -/
def rpcError? (m : Message) : Option RpcError :=
  m.error.map fun raw =>
    match RpcError.reader.ofValue raw with
    | .ok e => e
    | .error _ => { RpcError.internalError "Malformed error object" with data := some raw }

def inboundRequest? (m : Message) : Option InboundRequest :=
  m.method.map fun method => { method, id := m.id, params := m.params }

end Message

/-! ## Readers -/

structure Request.Draft where
  jsonrpc : Option String := none
  method : Option String := none
  id : Option RequestId := none
  params : Option (Option Value) := none

def Request.record : Record Request.Draft Request where
  name := "struct Request"
  fields := [
    .of "jsonrpc" true Reader.string (·.jsonrpc) fun v d => { d with jsonrpc := some v },
    .of "method" true Reader.string (·.method) fun v d => { d with method := some v },
    .of "id" true RequestId.reader (·.id) fun v d => { d with id := some v },
    .of "params" false Reader.value.optional (·.params) fun v d => { d with params := some v }]
  empty := {}
  build d := do
    let jsonrpc ← required "jsonrpc" d.jsonrpc
    let method ← required "method" d.method
    let id ← required "id" d.id
    .ok { jsonrpc, method, id, params := d.params.join }

def Request.reader : Reader Request := Request.record.reader

structure Notification.Draft where
  jsonrpc : Option String := none
  method : Option String := none
  id : Option Unit := none
  params : Option (Option Value) := none

def Notification.record : Record Notification.Draft Notification where
  name := "struct Notification"
  fields := [
    .of "jsonrpc" true Reader.string (·.jsonrpc) fun v d => { d with jsonrpc := some v },
    .of "method" true Reader.string (·.method) fun v d => { d with method := some v },
    .of "id" false notificationIdReader (·.id) fun v d => { d with id := some v },
    .of "params" false Reader.value.optional (·.params) fun v d => { d with params := some v }]
  empty := {}
  build d := do
    let jsonrpc ← required "jsonrpc" d.jsonrpc
    let method ← required "method" d.method
    .ok { jsonrpc, method, params := d.params.join }

def Notification.reader : Reader Notification := Notification.record.reader

structure Response.Draft where
  jsonrpc : Option String := none
  id : Option Id := none
  result : Option (Option Value) := none
  error : Option (Option RpcError) := none

def Response.record : Record Response.Draft Response where
  name := "struct Response"
  fields := [
    .of "jsonrpc" true Reader.string (·.jsonrpc) fun v d => { d with jsonrpc := some v },
    .of "id" true Id.reader (·.id) fun v d => { d with id := some v },
    .of "result" false Reader.value.optional (·.result) fun v d => { d with result := some v },
    .of "error" false RpcError.reader.optional (·.error) fun v d => { d with error := some v }]
  empty := {}
  build d := do
    let jsonrpc ← required "jsonrpc" d.jsonrpc
    let id ← required "id" d.id
    .ok { jsonrpc, id, result := d.result.join, error := d.error.join }

def Response.reader : Reader Response := Response.record.reader

structure Message.Draft where
  jsonrpc : Option (Option String) := none
  method : Option (Option String) := none
  id : Option Id := none
  params : Option (Option Value) := none
  result : Option (Option Value) := none
  error : Option (Option Value) := none

def Message.record : Record Message.Draft Message where
  name := "struct Message"
  fields := [
    .of "jsonrpc" false Reader.string.optional (·.jsonrpc) fun v d => { d with jsonrpc := some v },
    .of "method" false Reader.string.optional (·.method) fun v d => { d with method := some v },
    .of "id" false Id.reader (·.id) fun v d => { d with id := some v },
    .of "params" false Reader.value.optional (·.params) fun v d => { d with params := some v },
    .of "result" false Reader.value.optional (·.result) fun v d => { d with result := some v },
    .of "error" false Reader.value.optional (·.error) fun v d => { d with error := some v }]
  empty := {}
  build d := .ok {
    jsonrpc := d.jsonrpc.join
    method := d.method.join
    id := d.id.getD .null
    params := d.params.join
    result := d.result.join
    error := d.error.join }

def Message.reader : Reader Message := Message.record.reader

end DuplexRpc.Wire
