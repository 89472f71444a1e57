import DuplexRpc.Decimal.Binary64

/-!
JSON values. A whole number within 64 bits, signed or unsigned, is an integer; every other number
is a binary64. The members of an object are kept in the order of their names, one per name.
-/

namespace DuplexRpc.Json

open DuplexRpc.Decimal

inductive Value where
  | null
  | bool (b : Bool)
  | int (n : Int)
  | float (x : Binary64)
  | string (s : String)
  | array (items : List Value)
  | object (members : List (String × Value))
  deriving Repr, Inhabited

abbrev Members := List (String × Value)

def int64Min : Int := -0x8000000000000000

def int64Max : Int := 0x7FFFFFFFFFFFFFFF

def uint64Max : Int := 0xFFFFFFFFFFFFFFFF

/-- The integers that a JSON number keeps exactly. -/
def isExactInteger (n : Int) : Bool := int64Min ≤ n && n ≤ uint64Max

def isInt64 (n : Int) : Bool := int64Min ≤ n && n ≤ int64Max

/-- Puts a member in its place; a later member of the same name replaces the earlier. -/
def Members.insert (name : String) (value : Value) : Members → Members
  | [] => [(name, value)]
  | (other, kept) :: rest =>
    if name = other then (name, value) :: rest
    else if name < other then (name, value) :: (other, kept) :: rest
    else (other, kept) :: Members.insert name value rest

def Members.ofList (members : List (String × Value)) : Members :=
  members.foldl (fun kept (name, value) => Members.insert name value kept) []

def Members.get? (name : String) : Members → Option Value
  | [] => none
  | (other, value) :: rest => if name = other then some value else Members.get? name rest

def Value.isNull : Value → Bool
  | .null => true
  | _ => false

/-- An optional member is absent when it is `null`. -/
def Value.nonNull? (v : Value) : Option Value :=
  if v.isNull then none else some v

end DuplexRpc.Json
