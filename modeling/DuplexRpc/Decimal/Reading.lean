import DuplexRpc.Decimal.Binary64

/-!
Binary64 numbers as people write them in settings: an optional sign, then digits with an optional
point and an optional exponent, or one of the words for infinity and not-a-number. Magnitudes
that are too large read as infinity.
-/

namespace DuplexRpc.Decimal.Binary64

def infinity (negative : Bool) : Binary64 :=
  ⟨if negative then 0xFFF0000000000000 else 0x7FF0000000000000⟩

def notANumber : Binary64 := ⟨0x7FF8000000000000⟩

private def splitSign (cs : List Char) : Bool × List Char :=
  match cs with
  | '-' :: rest => (true, rest)
  | '+' :: rest => (false, rest)
  | _ => (false, cs)

private def splitDigits (cs : List Char) : List Char × List Char :=
  (cs.takeWhile Char.isDigit, cs.dropWhile Char.isDigit)

private def exponentOf? (cs : List Char) : Option Int :=
  match cs with
  | [] => some 0
  | c :: rest =>
    if c = 'e' || c = 'E' then
      let (negative, rest) := splitSign rest
      match splitDigits rest with
      | ([], _) => none
      | (digits, []) =>
        let n : Int := Nat.ofDigitChars 10 digits 0
        some (if negative then -n else n)
      | _ => none
    else none

def ofText? (text : String) : Option Binary64 :=
  let (negative, cs) := splitSign text.toList
  let word := String.ofList (cs.map Char.toLower)
  if word = "inf" || word = "infinity" then some (infinity negative)
  else if word = "nan" then some notANumber
  else
    let (whole, rest) := splitDigits cs
    let (fraction, rest) := match rest with
      | '.' :: rest => splitDigits rest
      | _ => ([], rest)
    if whole.isEmpty && fraction.isEmpty then none
    else
      (exponentOf? rest).map fun power =>
        (ofDecimal? negative (Nat.ofDigitChars 10 (whole ++ fraction) 0)
          (power - fraction.length)).getD (infinity negative)

end DuplexRpc.Decimal.Binary64
