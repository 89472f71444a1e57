import DuplexRpc.Json.Value
import DuplexRpc.Decimal.Shortest
import DuplexRpc.Text.Quoted

/-!
Why a well-formed JSON value is not what was wanted.
-/

namespace DuplexRpc.Json

open DuplexRpc.Decimal

inductive Found where
  | null
  | bool (b : Bool)
  | int (n : Int)
  | float (x : Binary64)
  | string (s : String)
  | sequence
  | map
  deriving DecidableEq, Repr

def Value.found : Value → Found
  | .null => .null
  | .bool b => .bool b
  | .int n => .int n
  | .float x => .float x
  | .string s => .string s
  | .array _ => .sequence
  | .object _ => .map

private def ticked (s : String) : String := "\x60" ++ s ++ "\x60"

def Found.message : Found → String
  | .null => "null"
  | .bool b => "boolean " ++ ticked (if b then "true" else "false")
  | .int n => "integer " ++ ticked (toString n)
  | .float x => "floating point " ++ ticked (String.ofList x.jsonText)
  | .string s => "string " ++ Text.quoted s
  | .sequence => "sequence"
  | .map => "map"

inductive Mismatch where
  | wrongType (found : Found) (wanted : String)
  /-- An integer, but not one of the wanted range. -/
  | outOfRange (n : Int) (wanted : String)
  | missingMember (name : String)
  | duplicateMember (name : String)
  /-- An array in the place of a record of `members` members stopped before a required one. -/
  | tooFewItems (count : Nat) (record : String) (members : Nat)
  | tooManyItems (count : Nat)
  | reservedRequestId
  | correlatedNotification (id : Nat)
  deriving DecidableEq, Repr

def Mismatch.message : Mismatch → String
  | .wrongType found wanted => "invalid type: " ++ found.message ++ ", expected " ++ wanted
  | .outOfRange n wanted =>
    "invalid value: " ++ (Found.int n).message ++ ", expected " ++ wanted
  | .missingMember name => "missing field " ++ ticked name
  | .duplicateMember name => "duplicate field " ++ ticked name
  | .tooFewItems count record members =>
    "invalid length " ++ toString count ++ ", expected " ++ record ++ " with " ++
      toString members ++ " elements"
  | .tooManyItems count =>
    "invalid length " ++ toString count ++ ", expected fewer elements in array"
  | .reservedRequestId => "request id 0 is reserved for notifications"
  | .correlatedNotification id => "notification id must be 0, got " ++ toString id

end DuplexRpc.Json
