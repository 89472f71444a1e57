import DuplexRpc.Json.Reader
import DuplexRpc.Json.Printer

/-!
The structured error object of a response, with the codes that are reserved.
-/

namespace DuplexRpc.Wire

open DuplexRpc.Json

structure RpcError where
  code : Int64
  message : String
  data : Option Value := none
  deriving Repr

namespace RpcError

def parseError : RpcError := { code := -32700, message := "Parse error" }

def invalidRequest (message : String) : RpcError := { code := -32600, message }

def methodNotFound (method : String) : RpcError :=
  { code := -32601, message := "Method not found: " ++ method }

def invalidParams (message : String) : RpcError := { code := -32602, message }

def internalError (message : String) : RpcError := { code := -32603, message }

def display (e : RpcError) : String := "[" ++ toString e.code.toInt ++ "] " ++ e.message

def members (e : RpcError) : Members :=
  [("code", .int e.code.toInt), ("message", .string e.message)] ++
    (e.data.map fun v => ("data", v)).toList

def toValue (e : RpcError) : Value := .object e.members

structure Draft where
  code : Option Int64 := none
  message : Option String := none
  data : Option (Option Value) := none

def record : Record Draft RpcError where
  name := "struct RpcError"
  fields := [
    .of "code" true Reader.int64 (·.code) fun v d => { d with code := some v },
    .of "message" true Reader.string (·.message) fun v d => { d with message := some v },
    .of "data" false Reader.value.optional (·.data) fun v d => { d with data := some v }]
  empty := {}
  build d := do
    let code ← required "code" d.code
    let message ← required "message" d.message
    .ok { code, message, data := d.data.join }

def reader : Reader RpcError := record.reader

end RpcError
end DuplexRpc.Wire
