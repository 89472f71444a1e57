import DuplexRpc.Json.Reader
import DuplexRpc.Json.Printer

/-!
Identifiers. Our own requests carry a positive integer. A peer may use any JSON value as the id
of its calls; only a positive integer can answer one of our requests, and zero or nothing marks a
call that wants no answer.
-/

namespace DuplexRpc.Wire

open DuplexRpc.Json

structure RequestId where
  value : UInt64
  ne_zero : value ≠ 0
  deriving DecidableEq, Repr

def RequestId.ofUInt64? (n : UInt64) : Option RequestId :=
  if h : n = 0 then none else some ⟨n, h⟩

def RequestId.toNat (id : RequestId) : Nat := id.value.toNat

def RequestId.toValue (id : RequestId) : Value := .int id.value.toNat

def RequestId.reader : Reader RequestId :=
  Reader.uint64.refine fun n =>
    match RequestId.ofUInt64? n with
    | none => .error .reservedRequestId
    | some id => .ok id

inductive Id where
  | number (n : Int64)
  | string (s : String)
  /-- Missing, or written as `null`. -/
  | null
  /-- Any other value, kept to be echoed back. -/
  | other (v : Value)
  deriving Repr

namespace Id

def ofValue : Value → Id
  | .int n => if isInt64 n then .number (Int64.ofInt n) else .other (.int n)
  | .string s => .string s
  | .null => .null
  | v => .other v

def toValue : Id → Value
  | .number n => .int n.toInt
  | .string s => .string s
  | .null => .null
  | .other v => v

def reader : Reader Id := Reader.value.map ofValue

/-- The two's complement reading of a request id, which is negative from `2 ^ 63` on. -/
def ofRequestId (id : RequestId) : Id := .number id.value.toInt64

/-- The request of ours that this id could answer. -/
def requestId? : Id → Option RequestId
  | .number n => if 0 < n then RequestId.ofUInt64? n.toUInt64 else none
  | _ => none

/-- Marks a call that wants no answer. -/
def isSentinel : Id → Bool
  | .number n => n == 0
  | .null => true
  | _ => false

def display : Id → String
  | .number n => toString n.toInt
  | .string s => "\"" ++ s ++ "\""
  | .null => "null"
  | .other v => v.text

end Id

/-- A notification's id: zero, `null` or nothing. -/
def notificationIdReader : Reader Unit :=
  Reader.uint64.optional.refine fun
    | none => .ok ()
    | some n => if n = 0 then .ok () else .error (.correlatedNotification n.toNat)

end DuplexRpc.Wire
