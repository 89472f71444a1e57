import DuplexRpc.Decimal.Stepwise
import DuplexRpc.Json.Value

/-!
Strict JSON text. Each reader takes the characters still to be read and gives back what it read
with the rest; `none` is a fault of the text. Containers nest at most as deep as the reader is
told. A number that is not a whole number of 64 bits is found by machine arithmetic from as many
of its digits as a word holds, so it is not always the binary64 that is nearest to what is
written; one that no finite binary64 reaches on that way is a fault.
-/

namespace DuplexRpc.Json

open DuplexRpc.Decimal

def isBlank (c : Char) : Bool := c = ' ' || c = '\t' || c = '\n' || c = '\r'

def skipBlanks (cs : List Char) : List Char := cs.dropWhile isBlank

/-! ## Numbers -/

structure Numeral where
  negative : Bool
  whole : List Char
  fraction : Option (List Char)
  exponent : Option (Bool × List Char)
  deriving DecidableEq, Repr

def scanDigits (cs : List Char) : List Char × List Char :=
  (cs.takeWhile Char.isDigit, cs.dropWhile Char.isDigit)

/-- No digit follows a leading zero. -/
def scanWhole (cs : List Char) : Option (List Char × List Char) :=
  match cs with
  | '0' :: rest =>
    match rest with
    | c :: _ => if c.isDigit then none else some (['0'], rest)
    | [] => some (['0'], rest)
  | _ =>
    match scanDigits cs with
    | ([], _) => none
    | (digits, rest) => some (digits, rest)

def scanFraction (cs : List Char) : Option (Option (List Char) × List Char) :=
  match cs with
  | '.' :: rest =>
    match scanDigits rest with
    | ([], _) => none
    | (digits, rest) => some (some digits, rest)
  | _ => some (none, cs)

def scanSign (cs : List Char) : Bool × List Char :=
  match cs with
  | '-' :: rest => (true, rest)
  | '+' :: rest => (false, rest)
  | _ => (false, cs)

def scanExponent (cs : List Char) : Option (Option (Bool × List Char) × List Char) :=
  match cs with
  | c :: rest =>
    if c = 'e' || c = 'E' then
      let (negative, rest) := scanSign rest
      match scanDigits rest with
      | ([], _) => none
      | (digits, rest) => some (some (negative, digits), rest)
    else some (none, cs)
  | [] => some (none, cs)

def scanNumeral (cs : List Char) : Option (Numeral × List Char) := do
  let (negative, cs) := match cs with
    | '-' :: rest => (true, rest)
    | _ => (false, cs)
  let (whole, cs) ← scanWhole cs
  let (fraction, cs) ← scanFraction cs
  let (exponent, cs) ← scanExponent cs
  some (⟨negative, whole, fraction, exponent⟩, cs)

def digitsValue (digits : List Char) : Nat := Nat.ofDigitChars 10 digits 0

def Numeral.magnitude (n : Numeral) : Nat := digitsValue n.whole

/-- Takes digits into a word until one would not fit, and gives back what is left of them. -/
def takeDigits (significand : UInt64) : List Char → UInt64 × List Char
  | [] => (significand, [])
  | c :: cs =>
    let next := significand.toNat * 10 + (c.toNat - '0'.toNat)
    if next < UInt64.size then takeDigits (UInt64.ofNat next) cs else (significand, c :: cs)

/-- The digits that a word holds, and the power of ten of the last of them. Those of the whole part
that are left count as zeros; those of the fraction are dropped. -/
def Numeral.scaled (n : Numeral) : UInt64 × Int :=
  let (whole, beyond) := takeDigits 0 n.whole
  let fraction := n.fraction.getD []
  let (significand, dropped) := takeDigits whole fraction
  (significand, (beyond.length : Int) - ((fraction.length : Int) - dropped.length))

/-- The greatest exponent that a numeral is read with. -/
def maxExponent : Nat := 0x7FFFFFFF

/-- The value of a numeral as a float. An exponent that is too great decides alone, unless there is
nothing to scale. -/
def Numeral.rounded? (n : Numeral) : Option Binary64 :=
  let (significand, power) := n.scaled
  match n.exponent with
  | none => Binary64.ofSteps? n.negative significand power
  | some (small, digits) =>
    let shift := digitsValue digits
    if shift ≤ maxExponent then
      Binary64.ofSteps? n.negative significand (if small then power - shift else power + shift)
    else if significand != 0 && !small then none
    else some (Binary64.zero n.negative)

/-- The value of a numeral. Minus zero is a float, to keep its sign. -/
def Numeral.value? (n : Numeral) : Option Value :=
  let rounded := n.rounded?.map Value.float
  match n.fraction, n.exponent with
  | none, none =>
    let signed : Int := if n.negative then -(n.magnitude : Int) else n.magnitude
    if n.negative && n.magnitude == 0 then rounded
    else if isExactInteger signed then some (.int signed)
    else rounded
  | _, _ => rounded

/-! ## Strings -/

def hexDigit? (c : Char) : Option Nat :=
  if c.isDigit then some (c.toNat - '0'.toNat)
  else if 'a' ≤ c && c ≤ 'f' then some (c.toNat - 'a'.toNat + 10)
  else if 'A' ≤ c && c ≤ 'F' then some (c.toNat - 'A'.toNat + 10)
  else none

def hexUnit? (a b c d : Char) : Option Nat := do
  let a ← hexDigit? a
  let b ← hexDigit? b
  let c ← hexDigit? c
  let d ← hexDigit? d
  some (((a * 16 + b) * 16 + c) * 16 + d)

def shortEscape? (c : Char) : Option Char :=
  if c = '"' then some '"'
  else if c = '\\' then some '\\'
  else if c = '/' then some '/'
  else if c = 'b' then some '\x08'
  else if c = 'f' then some '\x0c'
  else if c = 'n' then some '\n'
  else if c = 'r' then some '\r'
  else if c = 't' then some '\t'
  else none

def isHighSurrogate (unit : Nat) : Bool := 0xD800 ≤ unit && unit < 0xDC00

def isLowSurrogate (unit : Nat) : Bool := 0xDC00 ≤ unit && unit < 0xE000

/-- Reads from behind the opening quote to behind the closing one. A high surrogate must be
followed by the escape of a low one. -/
def scanString : List Char → Option (List Char × List Char)
  | [] => none
  | '"' :: rest => some ([], rest)
  | '\\' :: 'u' :: a :: b :: c :: d :: rest =>
    match hexUnit? a b c d with
    | none => none
    | some unit =>
      if isHighSurrogate unit then
        match rest with
        | '\\' :: 'u' :: e :: f :: g :: h :: rest =>
          match hexUnit? e f g h with
          | none => none
          | some low =>
            if isLowSurrogate low then
              (scanString rest).map fun (s, rest) =>
                (Char.ofNat (0x10000 + (unit - 0xD800) * 0x400 + (low - 0xDC00)) :: s, rest)
            else none
        | _ => none
      else if isLowSurrogate unit then none
      else (scanString rest).map fun (s, rest) => (Char.ofNat unit :: s, rest)
  | '\\' :: c :: rest =>
    match shortEscape? c with
    | none => none
    | some c => (scanString rest).map fun (s, rest) => (c :: s, rest)
  | c :: rest =>
    if c = '\\' || c.toNat < 0x20 then none
    else (scanString rest).map fun (s, rest) => (c :: s, rest)

/-! ## Containers and values -/

/-- The items of an array from its first item to behind the bracket. `fuel` bounds the number of
items. -/
def scanItems {α : Type} (item : List Char → Option (α × List Char)) :
    Nat → List Char → Option (List α × List Char)
  | 0, _ => none
  | fuel + 1, cs =>
    match item cs with
    | none => none
    | some (v, cs) =>
      match skipBlanks cs with
      | ',' :: cs => (scanItems item fuel cs).map fun (vs, cs) => (v :: vs, cs)
      | ']' :: cs => some ([v], cs)
      | _ => none

def scanArray {α : Type} (item : List Char → Option (α × List Char)) (cs : List Char) :
    Option (List α × List Char) :=
  match skipBlanks cs with
  | ']' :: rest => some ([], rest)
  | _ => scanItems item cs.length cs

/-- The name of a member, up to its closing quote. -/
def scanName (cs : List Char) : Option (String × List Char) :=
  match skipBlanks cs with
  | '"' :: cs => (scanString cs).map fun (name, cs) => (String.ofList name, cs)
  | _ => none

def scanColon (cs : List Char) : Option (List Char) :=
  match skipBlanks cs with
  | ':' :: cs => some cs
  | _ => none

/-- The members of an object from the first name to behind the brace. `fuel` bounds the number
of members. -/
def scanMembers {α β : Type} (name : List Char → Option (α × List Char))
    (item : List Char → Option (β × List Char)) :
    Nat → List Char → Option (List (α × β) × List Char)
  | 0, _ => none
  | fuel + 1, cs =>
    match name cs with
    | none => none
    | some (key, cs) =>
      match scanColon cs with
      | none => none
      | some cs =>
        match item cs with
        | none => none
        | some (v, cs) =>
          match skipBlanks cs with
          | ',' :: cs =>
            (scanMembers name item fuel cs).map fun (vs, cs) => ((key, v) :: vs, cs)
          | '}' :: cs => some ([(key, v)], cs)
          | _ => none

def scanObject {α β : Type} (name : List Char → Option (α × List Char))
    (item : List Char → Option (β × List Char)) (cs : List Char) :
    Option (List (α × β) × List Char) :=
  match skipBlanks cs with
  | '}' :: rest => some ([], rest)
  | _ => scanMembers name item cs.length cs

def scanScalar (cs : List Char) : Option (Value × List Char) :=
  match cs with
  | 'n' :: 'u' :: 'l' :: 'l' :: rest => some (.null, rest)
  | 't' :: 'r' :: 'u' :: 'e' :: rest => some (.bool true, rest)
  | 'f' :: 'a' :: 'l' :: 's' :: 'e' :: rest => some (.bool false, rest)
  | '"' :: rest => (scanString rest).map fun (s, rest) => (.string (String.ofList s), rest)
  | _ =>
    match scanNumeral cs with
    | none => none
    | some (numeral, rest) => numeral.value?.map fun v => (v, rest)

/-- A value within which containers nest at most `depth` deep. -/
def scanValue : Nat → List Char → Option (Value × List Char)
  | 0, cs =>
    match skipBlanks cs with
    | '[' :: _ => none
    | '{' :: _ => none
    | cs => scanScalar cs
  | depth + 1, cs =>
    match skipBlanks cs with
    | '[' :: rest => (scanArray (scanValue depth) rest).map fun (vs, rest) => (.array vs, rest)
    | '{' :: rest =>
      (scanObject scanName (scanValue depth) rest).map fun (ms, rest) =>
        (.object (Members.ofList ms), rest)
    | cs => scanScalar cs

def maxDepth : Nat := 127

def parseWithin (depth : Nat) (text : String) : Option Value :=
  match scanValue depth text.toList with
  | none => none
  | some (v, rest) => if (skipBlanks rest).isEmpty then some v else none

def parse (text : String) : Option Value := parseWithin maxDepth text

end DuplexRpc.Json
