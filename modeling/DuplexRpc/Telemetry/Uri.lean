/-!
The shape of a URI as far as clients check it before using it: an optional scheme, an authority,
and a path with a query. Nothing is resolved or decoded.
-/

namespace DuplexRpc.Telemetry

inductive UriFault where
  | empty
  | invalidCharacter
  | invalidAuthority
  | invalidFormat
  | schemeTooLong
  | tooLong
  deriving DecidableEq, Repr

def UriFault.message : UriFault → String
  | .empty => "empty string"
  | .invalidCharacter => "invalid uri character"
  | .invalidAuthority => "invalid authority"
  | .invalidFormat => "invalid format"
  | .schemeTooLong => "scheme too long"
  | .tooLong => "uri too long"

structure Uri where
  scheme : Option (List Char)
  authority : List Char
  path : List Char
  deriving DecidableEq, Repr

namespace Uri

private def isAlnum (c : Char) : Bool := c.isAlphanum

def isSchemeChar (c : Char) : Bool := isAlnum c || c = '+' || c = '-' || c = '.'

def isUriChar (c : Char) : Bool :=
  isAlnum c || "!#$&'()*+,-./:;=?@[]_~".toList.contains c

/-- Splits the scheme and the two slashes off, where there are any. Three characters are too few
for both. -/
def splitScheme (cs : List Char) : Except UriFault (Option (List Char) × List Char) :=
  let scheme := cs.takeWhile isSchemeChar
  match cs.dropWhile isSchemeChar with
  | ':' :: '/' :: '/' :: rest =>
    if cs.length ≤ 3 then .ok (none, cs)
    else if scheme.length > 64 then .error .schemeTooLong
    else .ok (some scheme, rest)
  | _ => .ok (none, cs)

/-- What has been seen of an authority. A colon or percent sign in the part before an at sign,
or within brackets, does not count. -/
structure AuthorityScan where
  colons : Nat := 0
  openBracket : Bool := false
  closeBracket : Bool := false
  percent : Bool := false
  endsWithAt : Bool := false

/-- Scans up to the path, the query or the fragment; gives back the authority and the rest. -/
def scanAuthority (scan : AuthorityScan) (read : List Char) :
    List Char → Except UriFault (AuthorityScan × List Char × List Char)
  | [] => .ok (scan, read.reverse, [])
  | c :: rest =>
    if c = '/' || c = '?' || c = '#' then .ok (scan, read.reverse, c :: rest)
    else if c = ':' then
      if scan.colons ≥ 8 then .error .invalidAuthority
      else
        scanAuthority { scan with colons := scan.colons + 1, endsWithAt := false }
          (c :: read) rest
    else if c = '[' then
      if scan.percent || scan.openBracket then .error .invalidAuthority
      else scanAuthority { scan with openBracket := true, endsWithAt := false } (c :: read) rest
    else if c = ']' then
      if !scan.openBracket || scan.closeBracket then .error .invalidAuthority
      else
        scanAuthority
          { scan with closeBracket := true, colons := 0, percent := false, endsWithAt := false }
          (c :: read) rest
    else if c = '@' then
      scanAuthority { scan with colons := 0, percent := false, endsWithAt := true }
        (c :: read) rest
    else if c = '%' then
      scanAuthority { scan with percent := true, endsWithAt := false } (c :: read) rest
    else if isUriChar c then
      scanAuthority { scan with endsWithAt := false } (c :: read) rest
    else .error .invalidCharacter

def splitAuthority (cs : List Char) : Except UriFault (List Char × List Char) := do
  let (scan, authority, rest) ← scanAuthority {} [] cs
  if scan.openBracket != scan.closeBracket || scan.colons > 1 || scan.endsWithAt ||
      scan.percent then
    .error .invalidAuthority
  else .ok (authority, rest)

private def isPathChar (c : Char) : Bool :=
  let n := c.toNat
  n = 0x21 || (0x24 ≤ n && n ≤ 0x3B) || n = 0x3D || (0x40 ≤ n && n ≤ 0x5F) ||
    (0x61 ≤ n && n ≤ 0x7A) || (0x7B ≤ n && n ≤ 0x7E) || n ≥ 0x80 || c = '"'

private def isQueryChar (c : Char) : Bool :=
  let n := c.toNat
  n = 0x21 || (0x24 ≤ n && n ≤ 0x3B) || n = 0x3D || (0x3F ≤ n && n ≤ 0x7E) || n ≥ 0x80

/-- A path and a query; nothing behind a fragment sign is looked at. -/
def isPath (cs : List Char) : Bool :=
  let path := cs.takeWhile fun c => c != '?' && c != '#'
  let query := match cs.dropWhile fun c => c != '?' && c != '#' with
    | '?' :: rest => rest.takeWhile (· != '#')
    | _ => []
  path.all isPathChar && query.all isQueryChar

def ofText (text : String) : Except UriFault Uri :=
  let cs := text.toList
  if text.utf8ByteSize > 65534 then .error .tooLong
  else match cs with
  | [] => .error .empty
  | '/' :: _ => if isPath cs then .ok ⟨none, [], cs⟩ else .error .invalidCharacter
  | ['*'] => .ok ⟨none, [], cs⟩
  | _ => do
    let (scheme, rest) ← splitScheme cs
    match scheme, rest with
    | some _, [] => .error .empty
    | none, _ =>
      let (authority, path) ← splitAuthority rest
      if path.isEmpty then .ok ⟨none, authority, []⟩
      else if cs.length = 1 then .error .invalidCharacter
      else .error .invalidFormat
    | some scheme, rest =>
      let (authority, path) ← splitAuthority rest
      if authority.isEmpty then .error .invalidFormat
      else if isPath path then .ok ⟨some scheme, authority, path⟩
      else .error .invalidCharacter

def port? (u : Uri) : Option Nat :=
  let tail := (u.authority.reverse.takeWhile fun c => c != '@' && c != ']')
  if tail.contains ':' then
    let digits := (tail.takeWhile (· != ':')).reverse
    if !digits.isEmpty && digits.all Char.isDigit then
      let n := Nat.ofDigitChars 10 digits 0
      if n < 65536 then some n else none
    else none
  else none

end Uri
end DuplexRpc.Telemetry
