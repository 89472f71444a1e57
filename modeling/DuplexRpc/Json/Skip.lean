import DuplexRpc.Json.Parser

/-!
Passing over a value that nobody asked for. Its grammar is checked and nothing else: containers
may nest without limit, numbers may be of any size, and a string may escape half a surrogate
pair.
-/

namespace DuplexRpc.Json

def skipString : List Char → Option (List Char)
  | [] => none
  | '"' :: rest => some rest
  | '\\' :: 'u' :: a :: b :: c :: d :: rest =>
    match hexUnit? a b c d with
    | none => none
    | some _ => skipString rest
  | '\\' :: c :: rest =>
    match shortEscape? c with
    | none => none
    | some _ => skipString rest
  | c :: rest => if c = '\\' || c.toNat < 0x20 then none else skipString rest

def skipName (cs : List Char) : Option (Unit × List Char) :=
  match skipBlanks cs with
  | '"' :: cs => (skipString cs).map fun cs => ((), cs)
  | _ => none

def skipScalar (cs : List Char) : Option (Unit × List Char) :=
  match cs with
  | 'n' :: 'u' :: 'l' :: 'l' :: rest => some ((), rest)
  | 't' :: 'r' :: 'u' :: 'e' :: rest => some ((), rest)
  | 'f' :: 'a' :: 'l' :: 's' :: 'e' :: rest => some ((), rest)
  | '"' :: rest => (skipString rest).map fun rest => ((), rest)
  | _ => (scanNumeral cs).map fun (_, rest) => ((), rest)

def skipNested : Nat → List Char → Option (Unit × List Char)
  | 0, _ => none
  | depth + 1, cs =>
    match skipBlanks cs with
    | '[' :: rest => (scanArray (skipNested depth) rest).map fun (_, rest) => ((), rest)
    | '{' :: rest => (scanObject skipName (skipNested depth) rest).map fun (_, rest) => ((), rest)
    | cs => skipScalar cs

/-- No text nests deeper than it is long. -/
def skipValue (cs : List Char) : Option (List Char) :=
  (skipNested (cs.length + 1) cs).map (·.2)

end DuplexRpc.Json
