import DuplexRpc.Fault
import DuplexRpc.Json.Parser
import DuplexRpc.Wire.Message

/-!
One JSON object per payload. Batches are not part of the protocol, so an array is refused and not
unpacked.
-/

namespace DuplexRpc.Wire

open DuplexRpc.Json

def encodeMembers (members : Members) : String := (Value.object members).text

def OutboundMessage.encode (m : OutboundMessage) : String := encodeMembers m.members

def Message.encode (m : Message) : String := encodeMembers m.members

def Message.decode (text : String) : Except Fault Message :=
  match parse text with
  | none => .error (.rpc .parseError)
  | some (.array _) => .error (.rpc (.invalidRequest "Batches are not supported"))
  | some (.object members) =>
    match Message.reader.ofValue (.object members) with
    | .ok m => .ok m
    | .error reason => .error (.rpc (.invalidRequest reason.message))
  | some _ => .error (.rpc (.invalidRequest "Message must be a JSON object"))

end DuplexRpc.Wire
