import DuplexRpc.Json.Parser
import DuplexRpc.Json.Printer

/-!
# Numbers and strings in a text

How numbers and strings are spelled.  A scanner that stands before one takes exactly its spelling
and leaves what follows, and it takes nothing that is spelled otherwise.  A number has no end mark,
so what follows it must not read as more of a number.
-/

namespace DuplexRpc.Json

/-! ## Numbers -/

structure Digits (cs : List Char) : Prop where
  nonempty : cs ≠ []
  all : ∀ c ∈ cs, c.isDigit

/-- No digit follows a leading zero. -/
structure WholeDigits (cs : List Char) : Prop extends Digits cs where
  leading : cs.head? = some '0' → cs = ['0']

inductive FractionText : Option (List Char) → List Char → Prop where
  | absent : FractionText none []
  | point {digits : List Char} (counted : Digits digits) :
      FractionText (some digits) ('.' :: digits)

inductive SignText : Bool → List Char → Prop where
  | absent : SignText false []
  | plus : SignText false ['+']
  | minus : SignText true ['-']

inductive ExponentText : Option (Bool × List Char) → List Char → Prop where
  | absent : ExponentText none []
  | power {mark : Char} {negative : Bool} {sign digits : List Char}
      (marked : mark = 'e' ∨ mark = 'E') (signed : SignText negative sign)
      (counted : Digits digits) :
      ExponentText (some (negative, digits)) (mark :: (sign ++ digits))

/-- The text of a numeral: its sign if it is negative, and its parts in order. -/
structure Numeral.Text (n : Numeral) (cs : List Char) : Prop where
  whole : WholeDigits n.whole
  parts : ∃ fraction exponent, FractionText n.fraction fraction ∧
    ExponentText n.exponent exponent ∧
    cs = (if n.negative then ['-'] else []) ++ (n.whole ++ (fraction ++ exponent))

def continuesNumber (c : Char) : Bool := c.isDigit || c = '.' || c = 'e' || c = 'E'

/-- Where a number that stands before this text is at its end. -/
def EndsNumber (rest : List Char) : Prop := ∀ c ∈ rest.head?, continuesNumber c = false

/-- Where a run of digits that stands before this text is at its end. -/
def EndsDigits (rest : List Char) : Prop := ∀ c ∈ rest.head?, c.isDigit = false

@[simp] theorem endsNumber_nil : EndsNumber [] := by simp [EndsNumber]

@[simp] theorem endsNumber_cons {c : Char} {rest : List Char} :
    EndsNumber (c :: rest) ↔ continuesNumber c = false := by simp [EndsNumber]

@[simp] theorem endsDigits_cons {c : Char} {rest : List Char} :
    EndsDigits (c :: rest) ↔ c.isDigit = false := by simp [EndsDigits]

variable {cs text rest digits : List Char}

theorem EndsNumber.endsDigits (ended : EndsNumber rest) : EndsDigits rest := by
  intro c first
  have stops := ended c first
  simp only [continuesNumber, Bool.or_eq_false_iff] at stops
  exact stops.1.1.1

theorem Digits.isDigit_head {c : Char} (counted : Digits (c :: cs)) : c.isDigit :=
  counted.all c List.mem_cons_self

theorem scanDigits_sound (scanned : scanDigits cs = (digits, rest)) (nonempty : digits ≠ []) :
    cs = digits ++ rest ∧ Digits digits := by
  obtain ⟨rfl, rfl⟩ := Prod.mk.inj scanned
  exact ⟨List.takeWhile_append_dropWhile.symm, nonempty, List.all_eq_true.mp List.all_takeWhile⟩

theorem scanDigits_append (counted : Digits digits) (ended : EndsDigits rest) :
    scanDigits (digits ++ rest) = (digits, rest) := by
  have stop : rest.takeWhile Char.isDigit = [] ∧ rest.dropWhile Char.isDigit = rest := by
    cases rest with
    | nil => simp
    | cons c rest => simp [endsDigits_cons.mp ended]
  rw [scanDigits, List.takeWhile_append_of_pos counted.all,
    List.dropWhile_append_of_pos counted.all, stop.1, stop.2, List.append_nil]

theorem scanWhole_sound (scanned : scanWhole cs = some (digits, rest)) :
    cs = digits ++ rest ∧ WholeDigits digits := by
  have zero : WholeDigits ['0'] := ⟨⟨by simp, by simp⟩, fun _ => rfl⟩
  unfold scanWhole at scanned
  split at scanned
  · split at scanned
    · split at scanned
      · cases scanned
      · cases scanned
        exact ⟨rfl, zero⟩
    · cases scanned
      exact ⟨rfl, zero⟩
  · rename_i leading
    split at scanned
    · cases scanned
    · rename_i taken other nonempty same
      cases scanned
      obtain ⟨split, counted⟩ := scanDigits_sound same nonempty
      refine ⟨split, counted, fun first => ?_⟩
      -- a leading zero was taken above
      obtain ⟨tail, rfl⟩ := List.head?_eq_some_iff.mp first
      exact absurd split (leading _)

theorem scanWhole_append (counted : WholeDigits digits) (ended : EndsDigits rest) :
    scanWhole (digits ++ rest) = some (digits, rest) := by
  have scanned := scanDigits_append counted.toDigits ended
  cases digits with
  | nil => exact absurd rfl counted.nonempty
  | cons c digits =>
      by_cases zero : c = '0'
      · subst zero
        obtain ⟨-, rfl⟩ := List.cons.inj (counted.leading rfl)
        cases rest with
        | nil => rfl
        | cons c rest => simp [scanWhole, endsDigits_cons.mp ended]
      · unfold scanWhole
        split
        · rename_i same
          exact absurd (List.cons.inj same).1 zero
        · rw [scanned]

theorem scanFraction_sound {fraction : Option (List Char)}
    (scanned : scanFraction cs = some (fraction, rest)) :
    ∃ text, cs = text ++ rest ∧ FractionText fraction text := by
  unfold scanFraction at scanned
  split at scanned
  · split at scanned
    · cases scanned
    · rename_i nonempty same
      cases scanned
      obtain ⟨rfl, counted⟩ := scanDigits_sound same nonempty
      exact ⟨_, rfl, .point counted⟩
  · cases scanned
    exact ⟨[], rfl, .absent⟩

theorem scanFraction_append {fraction : Option (List Char)} (spelled : FractionText fraction text)
    (ended : EndsDigits rest) (pointless : rest.head? ≠ some '.') :
    scanFraction (text ++ rest) = some (fraction, rest) := by
  cases spelled with
  | absent =>
      unfold scanFraction
      split
      · rename_i same
        exact absurd (congrArg List.head? same) pointless
      · rfl
  | point counted =>
      have scanned := scanDigits_append counted ended
      obtain ⟨c, digits, rfl⟩ := List.exists_cons_of_ne_nil counted.nonempty
      simp only [List.cons_append, scanFraction] at scanned ⊢
      rw [scanned]

theorem scanSign_sound {negative : Bool} (scanned : scanSign cs = (negative, rest)) :
    ∃ sign, cs = sign ++ rest ∧ SignText negative sign := by
  unfold scanSign at scanned
  split at scanned <;> cases scanned
  · exact ⟨['-'], rfl, .minus⟩
  · exact ⟨['+'], rfl, .plus⟩
  · exact ⟨[], rfl, .absent⟩

theorem scanSign_append {negative : Bool} {sign : List Char} (signed : SignText negative sign)
    (counted : Digits digits) (rest : List Char) :
    scanSign (sign ++ (digits ++ rest)) = (negative, digits ++ rest) := by
  cases signed with
  | plus => rfl
  | minus => rfl
  | absent =>
      cases digits with
      | nil => exact absurd rfl counted.nonempty
      | cons c digits =>
          have digit := counted.isDigit_head
          unfold scanSign
          split
          · rename_i same
            obtain ⟨rfl, -⟩ := List.cons.inj same
            cases digit
          · rename_i same
            obtain ⟨rfl, -⟩ := List.cons.inj same
            cases digit
          · rfl

theorem scanExponent_sound {exponent : Option (Bool × List Char)}
    (scanned : scanExponent cs = some (exponent, rest)) :
    ∃ text, cs = text ++ rest ∧ ExponentText exponent text := by
  unfold scanExponent at scanned
  split at scanned
  · rename_i mark tail
    split at scanned
    · rename_i marked
      rcases signs : scanSign tail with ⟨negative, after⟩
      obtain ⟨sign, rfl, signed⟩ := scanSign_sound signs
      simp only [signs] at scanned
      split at scanned
      · cases scanned
      · rename_i nonempty same
        cases scanned
        obtain ⟨rfl, counted⟩ := scanDigits_sound same nonempty
        have marks : mark = 'e' ∨ mark = 'E' := by simpa using marked
        exact ⟨_, by simp, .power marks signed counted⟩
    · cases scanned
      exact ⟨[], rfl, .absent⟩
  · cases scanned
    exact ⟨[], rfl, .absent⟩

theorem scanExponent_append {exponent : Option (Bool × List Char)}
    (spelled : ExponentText exponent text) (ended : EndsNumber rest) :
    scanExponent (text ++ rest) = some (exponent, rest) := by
  cases spelled with
  | absent =>
      cases rest with
      | nil => rfl
      | cons c rest =>
          have stops := endsNumber_cons.mp ended
          simp_all [scanExponent, continuesNumber]
  | power marked signed counted =>
      have signs := scanSign_append signed counted rest
      have scanned := scanDigits_append counted ended.endsDigits
      obtain ⟨c, digits, rfl⟩ := List.exists_cons_of_ne_nil counted.nonempty
      simp only [List.cons_append, List.append_assoc, scanExponent] at signs scanned ⊢
      rw [if_pos (by simpa using marked), signs]
      simp only [scanned]

theorem ExponentText.head? {exponent : Option (Bool × List Char)}
    (spelled : ExponentText exponent text) (ended : EndsNumber rest) :
    ∀ c ∈ (text ++ rest).head?, c.isDigit = false ∧ c ≠ '.' := by
  cases spelled with
  | absent =>
      intro c first
      have stops := ended c first
      simp_all [continuesNumber]
  | power marked signed counted =>
      rintro c ⟨rfl⟩
      rcases marked with rfl | rfl <;> decide

theorem FractionText.endsDigits {fraction : Option (List Char)}
    (spelled : FractionText fraction text) (ended : EndsDigits rest) :
    EndsDigits (text ++ rest) := by
  cases spelled with
  | absent => exact ended
  | point counted => exact endsDigits_cons.mpr (by decide)

/-- Scans a numeral behind its sign. -/
def scanUnsigned (negative : Bool) (cs : List Char) : Option (Numeral × List Char) := do
  let (whole, cs) ← scanWhole cs
  let (fraction, cs) ← scanFraction cs
  let (exponent, cs) ← scanExponent cs
  some (⟨negative, whole, fraction, exponent⟩, cs)

theorem scanNumeral_minus (cs : List Char) : scanNumeral ('-' :: cs) = scanUnsigned true cs := rfl

theorem scanNumeral_unsigned (unsigned : cs.head? ≠ some '-') :
    scanNumeral cs = scanUnsigned false cs := by
  unfold scanNumeral
  split
  rename_i negative after sign
  split at sign <;> cases sign
  · exact absurd rfl unsigned
  · rfl

theorem scanUnsigned_sound {n : Numeral} {negative : Bool}
    (scanned : scanUnsigned negative cs = some (n, rest)) :
    ∃ text, (if negative then ['-'] else []) ++ cs = text ++ rest ∧ n.Text text := by
  simp only [scanUnsigned, bind, Option.bind_eq_some_iff] at scanned
  obtain ⟨⟨whole, afterWhole⟩, wholeScanned, ⟨fraction, afterFraction⟩, fractionScanned,
    ⟨exponent, afterExponent⟩, exponentScanned, same⟩ := scanned
  cases same
  obtain ⟨rfl, counted⟩ := scanWhole_sound wholeScanned
  obtain ⟨fractionText, rfl, fractional⟩ := scanFraction_sound fractionScanned
  obtain ⟨exponentText, rfl, exponential⟩ := scanExponent_sound exponentScanned
  exact ⟨_, by simp only [List.append_assoc], counted, fractionText, exponentText, fractional,
    exponential, rfl⟩

theorem scanNumeral_sound {n : Numeral} (scanned : scanNumeral cs = some (n, rest)) :
    ∃ text, cs = text ++ rest ∧ n.Text text := by
  by_cases sign : cs.head? = some '-'
  · obtain ⟨tail, rfl⟩ := List.head?_eq_some_iff.mp sign
    rw [scanNumeral_minus] at scanned
    exact scanUnsigned_sound scanned
  · rw [scanNumeral_unsigned sign] at scanned
    exact scanUnsigned_sound scanned

theorem scanNumeral_append {n : Numeral} (spelled : n.Text text) (ended : EndsNumber rest) :
    scanNumeral (text ++ rest) = some (n, rest) := by
  obtain ⟨counted, fraction, exponent, fractional, exponential, rfl⟩ := spelled
  have behindFraction := exponential.head? ended
  have behindWhole : EndsDigits (fraction ++ (exponent ++ rest)) :=
    fractional.endsDigits fun c first => (behindFraction c first).1
  have scanned : scanUnsigned n.negative (n.whole ++ (fraction ++ (exponent ++ rest))) =
      some (n, rest) := by
    have pointless : (exponent ++ rest).head? ≠ some '.' := fun first =>
      (behindFraction '.' first).2 rfl
    simp [scanUnsigned, scanWhole_append counted behindWhole,
      scanFraction_append fractional (fun c first => (behindFraction c first).1) pointless,
      scanExponent_append exponential ended]
  cases sign : n.negative with
  | true =>
      rw [sign] at scanned
      simpa [scanNumeral_minus] using scanned
  | false =>
      obtain ⟨c, digits, written⟩ := List.exists_cons_of_ne_nil counted.nonempty
      have digit := counted.all c (by simp [written])
      have unsigned : (n.whole ++ (fraction ++ (exponent ++ rest))).head? ≠ some '-' := by
        rw [written]
        rintro ⟨rfl⟩
        cases digit
      rw [sign, ← scanNumeral_unsigned unsigned] at scanned
      simpa using scanned

/-- A numeral begins with its sign or with a digit. -/
theorem Numeral.Text.eq_cons {n : Numeral} (spelled : n.Text text) :
    ∃ c cs, text = c :: cs ∧ (c = '-' ∨ c.isDigit) := by
  obtain ⟨counted, fraction, exponent, -, -, rfl⟩ := spelled
  cases sign : n.negative with
  | true => exact ⟨'-', _, rfl, .inl rfl⟩
  | false =>
      obtain ⟨c, digits, written⟩ := List.exists_cons_of_ne_nil counted.nonempty
      exact ⟨c, _, by simp [written]; rfl, .inr (counted.all c (by simp [written]))⟩

/-! ## Strings -/

/-- The text of a string between its quotes.  Every character may be escaped by its code, one
beyond the first 65536 as a surrogate pair; a quote, a backslash and a control character have to
be escaped. -/
inductive StringText : List Char → List Char → Prop where
  | nil : StringText [] []
  | plain {c : Char} {text s : List Char} (quote : c ≠ '"') (backslash : c ≠ '\\')
      (printable : 0x20 ≤ c.toNat) (later : StringText text s) : StringText (c :: text) (c :: s)
  | short {mark c : Char} {text s : List Char} (escape : shortEscape? mark = some c)
      (later : StringText text s) : StringText ('\\' :: mark :: text) (c :: s)
  | code {a b c d : Char} {unit : Nat} {text s : List Char} (hex : hexUnit? a b c d = some unit)
      (whole : ¬isHighSurrogate unit ∧ ¬isLowSurrogate unit) (later : StringText text s) :
      StringText ('\\' :: 'u' :: a :: b :: c :: d :: text) (Char.ofNat unit :: s)
  | pair {a b c d e f g h : Char} {high low : Nat} {text s : List Char}
      (first : hexUnit? a b c d = some high) (second : hexUnit? e f g h = some low)
      (leads : isHighSurrogate high) (trails : isLowSurrogate low) (later : StringText text s) :
      StringText
        ('\\' :: 'u' :: a :: b :: c :: d :: '\\' :: 'u' :: e :: f :: g :: h :: text)
        (Char.ofNat (0x10000 + (high - 0xD800) * 0x400 + (low - 0xDC00)) :: s)

theorem scanString_sound {s : List Char} (scanned : scanString cs = some (s, rest)) :
    ∃ text, cs = text ++ '"' :: rest ∧ StringText text s := by
  -- what a scan that goes on took before it
  have goes {tail t : List Char} {c : Char}
      (later : ∀ {s}, scanString tail = some (s, rest) →
        ∃ text, tail = text ++ '"' :: rest ∧ StringText text s)
      (scanned : (scanString tail).map (fun (s, rest) => (c :: s, rest)) = some (t, rest)) :
      ∃ text s, tail = text ++ '"' :: rest ∧ StringText text s ∧ t = c :: s := by
    obtain ⟨⟨s, after⟩, scanned, same⟩ := Option.map_eq_some_iff.mp scanned
    cases same
    obtain ⟨text, split, spelled⟩ := later scanned
    exact ⟨text, s, split, spelled, rfl⟩
  fun_induction scanString cs generalizing s with
  | case2 =>
      cases scanned
      exact ⟨[], rfl, .nil⟩
  | case5 a b c d high first leads e f g h tail low second trails ih =>
      obtain ⟨text, s, rfl, spelled, rfl⟩ := goes ih scanned
      exact ⟨_, rfl, .pair first second leads trails spelled⟩
  | case9 a b c d tail unit hex leads trails ih =>
      obtain ⟨text, s, rfl, spelled, rfl⟩ := goes ih scanned
      exact ⟨_, rfl, .code hex ⟨leads, trails⟩ spelled⟩
  | case11 mark tail _ c escape ih =>
      obtain ⟨text, s, rfl, spelled, rfl⟩ := goes ih scanned
      exact ⟨_, rfl, .short escape spelled⟩
  | case13 c tail quote _ _ plain ih =>
      obtain ⟨text, s, rfl, spelled, rfl⟩ := goes ih scanned
      simp only [Bool.or_eq_true, decide_eq_true_eq, not_or, Nat.not_lt] at plain
      exact ⟨_, rfl, .plain quote plain.1 plain.2 spelled⟩
  | _ => cases scanned

theorem scanString_plain {c : Char} (quote : c ≠ '"') (backslash : c ≠ '\\')
    (printable : 0x20 ≤ c.toNat) :
    scanString (c :: cs) = (scanString cs).map fun (s, rest) => (c :: s, rest) := by
  rw [scanString.eq_def]
  split
  case h_5 same =>
      obtain ⟨rfl, rfl⟩ := List.cons.inj same
      simp [backslash, Nat.not_lt.mpr printable]
  all_goals simp_all

theorem scanString_short {mark c : Char} (escape : shortEscape? mark = some c) :
    scanString ('\\' :: mark :: cs) = (scanString cs).map fun (s, rest) => (c :: s, rest) := by
  rw [scanString.eq_def]
  split
  case h_3 same =>
      obtain ⟨rfl, -⟩ := by simpa using same
      cases escape
  case h_4 same =>
      obtain ⟨rfl, rfl⟩ := by simpa using same
      simp [escape]
  case h_5 single same =>
      obtain ⟨rfl, rfl⟩ := List.cons.inj same
      exact absurd rfl (single mark cs rfl)
  all_goals simp_all

theorem scanString_append {s : List Char} (spelled : StringText text s) (rest : List Char) :
    scanString (text ++ '"' :: rest) = some (s, rest) := by
  induction spelled with
  | nil => rfl
  | plain quote backslash printable _ ih =>
      rw [List.cons_append, scanString_plain quote backslash printable, ih]
      rfl
  | short escape _ ih =>
      rw [List.cons_append, List.cons_append, scanString_short escape, ih]
      rfl
  | code hex whole _ ih => simp [scanString, hex, whole, ih]
  | pair first second leads trails _ ih => simp [scanString, first, second, leads, trails, ih]

end DuplexRpc.Json
