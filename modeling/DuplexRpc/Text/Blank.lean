/-!
White space, by its code points: the tabulators and line ends, the blanks of all widths, and the
separators of lines and paragraphs.
-/

namespace DuplexRpc.Text

def blankRanges : List (Nat × Nat) := [
  (0x9, 0xd), (0x20, 0x20), (0x85, 0x85), (0xa0, 0xa0), (0x1680, 0x1680), (0x2000, 0x200a),
  (0x2028, 0x2029), (0x202f, 0x202f), (0x205f, 0x205f), (0x3000, 0x3000)]

def isBlank (c : Char) : Bool :=
  blankRanges.any fun (first, last) => first ≤ c.toNat && c.toNat ≤ last

/-- The blanks in front, what stands between, and the blanks behind. -/
def splitBlanks (cs : List Char) : List Char × List Char × List Char :=
  let body := cs.dropWhile isBlank
  let behind := (body.reverse.takeWhile isBlank).reverse
  (cs.takeWhile isBlank, body.take (body.length - behind.length), behind)

end DuplexRpc.Text
