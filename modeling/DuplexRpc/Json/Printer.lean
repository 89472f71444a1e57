import DuplexRpc.Json.Value
import DuplexRpc.Decimal.Shortest

/-!
The compact text of a JSON value: no blanks, members in the order they are held. In a string only
the quote, the backslash and the characters below U+0020 are escaped.
-/

namespace DuplexRpc.Json

open DuplexRpc.Decimal

def decimal (n : Int) : List Char :=
  if n < 0 then '-' :: Nat.toDigits 10 n.natAbs else Nat.toDigits 10 n.natAbs

def escapeChar (c : Char) : List Char :=
  if c = '"' then ['\\', '"']
  else if c = '\\' then ['\\', '\\']
  else if c = '\x08' then ['\\', 'b']
  else if c = '\x0c' then ['\\', 'f']
  else if c = '\n' then ['\\', 'n']
  else if c = '\r' then ['\\', 'r']
  else if c = '\t' then ['\\', 't']
  else if c.toNat < 0x20 then
    ['\\', 'u', '0', '0', Nat.digitChar (c.toNat / 16), Nat.digitChar (c.toNat % 16)]
  else [c]

def renderString (s : String) : List Char :=
  '"' :: (s.toList.flatMap escapeChar ++ ['"'])

mutual
def Value.render : Value → List Char
  | .null => ['n', 'u', 'l', 'l']
  | .bool true => ['t', 'r', 'u', 'e']
  | .bool false => ['f', 'a', 'l', 's', 'e']
  | .int n => decimal n
  | .float x => x.jsonText
  | .string s => renderString s
  | .array items => '[' :: (renderItems items ++ [']'])
  | .object members => '{' :: (renderMembers members ++ ['}'])
def renderItems : List Value → List Char
  | [] => []
  | [v] => v.render
  | v :: w :: rest => v.render ++ ',' :: renderItems (w :: rest)
def renderMembers : List (String × Value) → List Char
  | [] => []
  | [(name, v)] => renderString name ++ ':' :: v.render
  | (name, v) :: next :: rest =>
    renderString name ++ ':' :: (v.render ++ ',' :: renderMembers (next :: rest))
end

def Value.text (v : Value) : String := String.ofList v.render

end DuplexRpc.Json
