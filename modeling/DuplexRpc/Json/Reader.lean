import DuplexRpc.Json.Mismatch
import DuplexRpc.Json.Skip

/-!
Typed reading. A `Reader` takes a typed value from a JSON value that is already there, or straight
from text. From text the first fault counts, be it of the text or of the type, so a type that
does not fit is noticed before anything behind it is looked at.
-/

namespace DuplexRpc.Json

inductive ReadFault where
  | malformed
  | mismatch (reason : Mismatch)
  deriving DecidableEq, Repr

structure Reader (α : Type) where
  ofValue : Value → Except Mismatch α
  /-- Reads from the front of a text in which containers nest at most as deep as given. -/
  ofChars : Nat → List Char → Except ReadFault (α × List Char)

def wellFormed {α : Type} : Option α → Except ReadFault α
  | none => .error .malformed
  | some a => .ok a

def fitting {α : Type} : Except Mismatch α → Except ReadFault α
  | .error reason => .error (.mismatch reason)
  | .ok a => .ok a

/-- A container where none is wanted is refused at its bracket, any other token once it is
read. -/
def expectScalar {α : Type} (wanted : String) (accept : Value → Except Mismatch α)
    (cs : List Char) : Except ReadFault (α × List Char) :=
  match skipBlanks cs with
  | '[' :: _ => .error (.mismatch (.wrongType .sequence wanted))
  | '{' :: _ => .error (.mismatch (.wrongType .map wanted))
  | cs => do
    let (v, rest) ← wellFormed (scanScalar cs)
    let a ← fitting (accept v)
    .ok (a, rest)

namespace Reader

def ofText {α : Type} (r : Reader α) (text : String) : Except ReadFault α := do
  let (a, rest) ← r.ofChars maxDepth text.toList
  if (skipBlanks rest).isEmpty then .ok a else .error .malformed

def scalar {α : Type} (wanted : String) (accept : Value → Except Mismatch α) : Reader α where
  ofValue := accept
  ofChars _ cs := expectScalar wanted accept cs

def refine {α β : Type} (r : Reader α) (check : α → Except Mismatch β) : Reader β where
  ofValue v := do check (← r.ofValue v)
  ofChars depth cs := do
    let (a, rest) ← r.ofChars depth cs
    let b ← fitting (check a)
    .ok (b, rest)

def map {α β : Type} (f : α → β) (r : Reader α) : Reader β :=
  r.refine fun a => .ok (f a)

def value : Reader Value where
  ofValue v := .ok v
  ofChars depth cs := wellFormed (scanValue depth cs)

def string : Reader String :=
  scalar "a string" fun
    | .string s => .ok s
    | v => .error (.wrongType v.found "a string")

def bool : Reader Bool :=
  scalar "a boolean" fun
    | .bool b => .ok b
    | v => .error (.wrongType v.found "a boolean")

def unit : Reader Unit :=
  scalar "unit" fun
    | .null => .ok ()
    | v => .error (.wrongType v.found "unit")

/-- An integer between two bounds; a whole number written as a float is none. -/
def integer (wanted : String) (low high : Int) : Reader Int :=
  scalar wanted fun
    | .int n => if low ≤ n && n ≤ high then .ok n else .error (.outOfRange n wanted)
    | v => .error (.wrongType v.found wanted)

def int64 : Reader Int64 := (integer "i64" int64Min int64Max).map Int64.ofInt

def uint64 : Reader UInt64 := (integer "u64" 0 uint64Max).map fun n => UInt64.ofNat n.toNat

def uint8 : Reader UInt8 := (integer "u8" 0 255).map fun n => UInt8.ofNat n.toNat

def optional {α : Type} (r : Reader α) : Reader (Option α) where
  ofValue v := if v.isNull then .ok none else (r.ofValue v).map some
  ofChars depth cs :=
    match skipBlanks cs with
    | 'n' :: 'u' :: 'l' :: 'l' :: rest => .ok (none, rest)
    | 'n' :: _ => .error .malformed
    | cs => do
      let (a, rest) ← r.ofChars depth cs
      .ok (some a, rest)

def listOfValues {α : Type} (r : Reader α) : List Value → Except Mismatch (List α)
  | [] => .ok []
  | v :: rest => do
    let a ← r.ofValue v
    let as ← listOfValues r rest
    .ok (a :: as)

end Reader

/-! ## Records -/

/-- One member of a record whose members are gathered in a draft of type `σ`. -/
structure Field (σ : Type) where
  name : String
  required : Bool
  isSet : σ → Bool
  ofValue : Value → σ → Except Mismatch σ
  ofChars : Nat → List Char → σ → Except ReadFault (σ × List Char)

def Field.of {σ α : Type} (name : String) (required : Bool) (r : Reader α)
    (get : σ → Option α) (set : α → σ → σ) : Field σ where
  name := name
  required := required
  isSet draft := (get draft).isSome
  ofValue v draft := do
    let a ← r.ofValue v
    .ok (set a draft)
  ofChars depth cs draft := do
    let (a, rest) ← r.ofChars depth cs
    .ok (set a draft, rest)

/-- A record is written as an object, or as an array of its members in order. Members it does
not know are passed over. -/
structure Record (σ α : Type) where
  name : String
  fields : List (Field σ)
  empty : σ
  build : σ → Except Mismatch α

namespace Record

variable {σ α : Type}

def field? (r : Record σ α) (name : String) : Option (Field σ) :=
  r.fields.find? (·.name == name)

def fillMembers (r : Record σ α) : σ → Members → Except Mismatch σ
  | draft, [] => .ok draft
  | draft, (name, v) :: rest =>
    match r.field? name with
    | none => r.fillMembers draft rest
    | some field => do
      let draft ← field.ofValue v draft
      r.fillMembers draft rest

/-- Fills the given fields in order and gives back the items left over. -/
def fillItems (r : Record σ α) (filled : Nat) :
    List (Field σ) → σ → List Value → Except Mismatch (σ × List Value)
  | [], draft, items => .ok (draft, items)
  | field :: fields, draft, [] =>
    if field.required then .error (.tooFewItems filled r.name r.fields.length)
    else r.fillItems filled fields draft []
  | field :: fields, draft, v :: items => do
    let draft ← field.ofValue v draft
    r.fillItems (filled + 1) fields draft items

def ofValue (r : Record σ α) : Value → Except Mismatch α
  | .object members => do
    let draft ← r.fillMembers r.empty members
    r.build draft
  | .array items => do
    let (draft, extra) ← r.fillItems 0 r.fields r.empty items
    let a ← r.build draft
    if extra.isEmpty then .ok a else .error (.tooManyItems items.length)
  | v => .error (.wrongType v.found r.name)

/-- Reads one member from behind its name's closing quote. A second member of a name is refused
before its colon. -/
def memberOfChars (r : Record σ α) (depth : Nat) (name : String) (cs : List Char) (draft : σ) :
    Except ReadFault (σ × List Char) :=
  match r.field? name with
  | none => do
    let cs ← wellFormed (scanColon cs)
    let cs ← wellFormed (skipValue cs)
    .ok (draft, cs)
  | some field =>
    if field.isSet draft then .error (.mismatch (.duplicateMember name))
    else do
      let cs ← wellFormed (scanColon cs)
      field.ofChars depth cs draft

/-- Reads members up to the closing brace. `fuel` bounds their number. -/
def membersOfChars (r : Record σ α) (depth : Nat) :
    Nat → List Char → σ → Except ReadFault (σ × List Char)
  | 0, _, _ => .error .malformed
  | fuel + 1, cs, draft => do
    let (name, cs) ← wellFormed (scanName cs)
    let (draft, cs) ← r.memberOfChars depth name cs draft
    match skipBlanks cs with
    | ',' :: cs => r.membersOfChars depth fuel cs draft
    | '}' :: cs => .ok (draft, cs)
    | _ => .error .malformed

/-- Reads items up to the closing bracket, which is left in place. -/
def itemsOfChars (r : Record σ α) (depth : Nat) (filled : Nat) :
    List (Field σ) → List Char → σ → Except ReadFault (σ × List Char)
  | [], cs, draft => .ok (draft, skipBlanks cs)
  | field :: fields, cs, draft =>
    match filled, skipBlanks cs with
    | _, ']' :: cs =>
      if field.required then
        .error (.mismatch (.tooFewItems filled r.name r.fields.length))
      else r.itemsOfChars depth filled fields (']' :: cs) draft
    | 0, cs => do
      let (draft, cs) ← field.ofChars depth cs draft
      r.itemsOfChars depth 1 fields cs draft
    | filled, ',' :: cs => do
      let (draft, cs) ← field.ofChars depth cs draft
      r.itemsOfChars depth (filled + 1) fields cs draft
    | _, _ => .error .malformed

def ofChars (r : Record σ α) (depth : Nat) (cs : List Char) :
    Except ReadFault (α × List Char) :=
  match skipBlanks cs, depth with
  | '{' :: _, 0 => .error .malformed
  | '[' :: _, 0 => .error .malformed
  | '{' :: cs, depth + 1 =>
    match skipBlanks cs with
    | '}' :: cs => do
      let a ← fitting (r.build r.empty)
      .ok (a, cs)
    | _ => do
      let (draft, cs) ← r.membersOfChars depth cs.length cs r.empty
      let a ← fitting (r.build draft)
      .ok (a, cs)
  | '[' :: cs, depth + 1 => do
    let (draft, cs) ← r.itemsOfChars depth 0 r.fields cs r.empty
    let a ← fitting (r.build draft)
    match cs with
    | ']' :: cs => .ok (a, cs)
    | _ => .error .malformed
  | cs, _ => expectScalar r.name (fun v => .error (.wrongType v.found r.name)) cs

def reader (r : Record σ α) : Reader α where
  ofValue := r.ofValue
  ofChars := r.ofChars

end Record

def required {α : Type} (name : String) : Option α → Except Mismatch α
  | none => .error (.missingMember name)
  | some a => .ok a

end DuplexRpc.Json
