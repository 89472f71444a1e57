import DuplexRpc.Fault
import DuplexRpc.Json.Reader

/-!
Results of a given type. The value that a peer sent is read as the type its caller asked for.
-/

namespace DuplexRpc

open DuplexRpc.Json

inductive ResultType where
  | value
  | int64
  | uint8
  | bool
  | string
  | unit
  | int64List
  | optionalString
  deriving DecidableEq, Repr

namespace ResultType

def Carrier : ResultType → Type
  | value => Value
  | int64 => Int64
  | uint8 => UInt8
  | bool => Bool
  | string => String
  | unit => Unit
  | int64List => List Int64
  | optionalString => Option String

def ofValue : (t : ResultType) → Value → Except Mismatch t.Carrier
  | value, v => .ok v
  | int64, v => Reader.int64.ofValue v
  | uint8, v => Reader.uint8.ofValue v
  | bool, v => Reader.bool.ofValue v
  | string, v => Reader.string.ofValue v
  | unit, v => Reader.unit.ofValue v
  | int64List, .array items => Reader.listOfValues Reader.int64 items
  | int64List, v => .error (.wrongType v.found "a sequence")
  | optionalString, v => Reader.string.optional.ofValue v

def toValue : (t : ResultType) → t.Carrier → Value
  | value, v => v
  | int64, (n : Int64) => .int n.toInt
  | uint8, (n : UInt8) => .int n.toNat
  | bool, (b : Bool) => .bool b
  | string, (s : String) => .string s
  | unit, _ => .null
  | int64List, (ns : List Int64) => .array (ns.map fun n => .int n.toInt)
  | optionalString, none => .null
  | optionalString, some (s : String) => .string s

/-- Reads an outcome as the type asked for; a value that does not fit is a fault of its own. -/
def read (t : ResultType) : Except Fault Value → Except Fault t.Carrier
  | .error fault => .error fault
  | .ok v =>
    match t.ofValue v with
    | .ok a => .ok a
    | .error reason => .error (.ofMismatch reason)

end ResultType
end DuplexRpc
