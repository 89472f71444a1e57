import DuplexRpc.Json.Skip
import DuplexRpc.Proofs.Json.Grammar

/-!
# Values that are passed over

Passing over a value takes the same characters as reading it.  It asks for less, so it may succeed
where reading does not, but never the other way round.
-/

namespace DuplexRpc.Json

variable {cs text rest : List Char}

/-! ## Strings, names and scalars -/

theorem skipString_plain {c : Char} (quote : c ≠ '"') (backslash : c ≠ '\\')
    (printable : 0x20 ≤ c.toNat) : skipString (c :: cs) = skipString cs := by
  rw [skipString.eq_def]
  split
  case h_5 same =>
      obtain ⟨rfl, rfl⟩ := List.cons.inj same
      simp [backslash, Nat.not_lt.mpr printable]
  all_goals simp_all

theorem skipString_short {mark c : Char} (escape : shortEscape? mark = some c) :
    skipString ('\\' :: mark :: cs) = skipString cs := by
  rw [skipString.eq_def]
  split
  case h_3 same =>
      obtain ⟨rfl, -⟩ := by simpa using same
      cases escape
  case h_4 same =>
      obtain ⟨rfl, rfl⟩ := by simpa using same
      simp [escape]
  case h_5 single same =>
      obtain ⟨rfl, rfl⟩ := List.cons.inj same
      exact absurd rfl (single mark cs rfl)
  all_goals simp_all

theorem skipString_append {s : List Char} (spelled : StringText text s) (rest : List Char) :
    skipString (text ++ '"' :: rest) = some rest := by
  induction spelled with
  | nil => rfl
  | plain quote backslash printable _ ih =>
      rw [List.cons_append, skipString_plain quote backslash printable, ih]
  | short escape _ ih =>
      rw [List.cons_append, List.cons_append, skipString_short escape, ih]
  | code hex _ _ ih => simp [skipString, hex, ih]
  | pair first second _ _ _ ih => simp [skipString, first, second, ih]

theorem skipString_of_scanString {s : List Char} (scanned : scanString cs = some (s, rest)) :
    skipString cs = some rest := by
  obtain ⟨text, rfl, spelled⟩ := scanString_sound scanned
  exact skipString_append spelled rest

theorem skipName_of_scanName {name : String} (scanned : scanName cs = some (name, rest)) :
    skipName cs = some ((), rest) := by
  unfold scanName at scanned
  split at scanned
  · rename_i tail next
    obtain ⟨⟨s, after⟩, inner, same⟩ := Option.map_eq_some_iff.mp scanned
    cases same
    simp [skipName, next, skipString_of_scanString inner]
  · cases scanned

theorem skipScalar_of_scanScalar {v : Value} (scanned : scanScalar cs = some (v, rest)) :
    skipScalar cs = some ((), rest) := by
  unfold scanScalar at scanned
  unfold skipScalar
  split at scanned
  case h_4 =>
      obtain ⟨⟨s, after⟩, inner, same⟩ := Option.map_eq_some_iff.mp scanned
      cases same
      simp [skipString_of_scanString inner]
  case h_5 =>
      split at scanned
      · cases scanned
      · rename_i numeral
        obtain ⟨_, -, same⟩ := Option.map_eq_some_iff.mp scanned
        cases same
        simp [numeral]
  all_goals
    cases scanned
    rfl

/-! ## Containers -/

/-- On texts that are not too long, whatever the first scanner takes the second one takes too. -/
structure Follows {α β : Type} (n : Nat) (scan : List Char → Option (α × List Char))
    (other : List Char → Option (β × List Char)) (f : α → β) : Prop where
  takes : ∀ {cs rest : List Char} {v : α}, cs.length ≤ n → scan cs = some (v, rest) →
    other cs = some (f v, rest) ∧ rest.length ≤ cs.length

theorem length_skipBlanks_le (cs : List Char) : (skipBlanks cs).length ≤ cs.length :=
  (List.dropWhile_suffix isBlank).length_le

namespace Follows

variable {α β κ μ : Type} {n : Nat} {item : List Char → Option (α × List Char)}
  {other : List Char → Option (β × List Char)} {f : α → β}

theorem sequence (follows : Follows n item other f) (close : Char) (fuel : Nat) :
    Follows n (scanSequence close item fuel) (scanSequence close other fuel) (List.map f) := by
  constructor
  intro cs rest vs short scanned
  induction fuel generalizing cs vs with
  | zero => cases scanned
  | succ fuel ih =>
      unfold scanSequence at scanned ⊢
      split at scanned
      · cases scanned
      · rename_i v after first
        obtain ⟨taken, fewer⟩ := follows.takes short first
        rw [taken]
        have narrow := length_skipBlanks_le after
        split at scanned
        · cases scanned
        · rename_i c tail next
          rw [next, List.length_cons] at narrow
          simp only [next]
          split at scanned
          · rename_i comma
            obtain ⟨⟨vs, after⟩, later, same⟩ := Option.map_eq_some_iff.mp scanned
            cases same
            obtain ⟨taken, still⟩ := ih (by omega) later
            exact ⟨by simp [comma, taken], by omega⟩
          · rename_i other
            split at scanned
            · rename_i closed
              cases scanned
              exact ⟨by rw [if_neg other, if_pos closed]; rfl, by omega⟩
            · cases scanned

theorem listing (follows : Follows n item other f) (close : Char) :
    Follows n (scanListing close item) (scanListing close other) (List.map f) := by
  constructor
  intro cs rest vs short scanned
  unfold scanListing at scanned ⊢
  split at scanned
  · rename_i closed
    cases scanned
    have narrow := length_skipBlanks_le cs
    exact ⟨if_pos closed, by simp only [List.length_tail]; omega⟩
  · rename_i apart
    obtain ⟨taken, fewer⟩ := (follows.sequence close cs.length).takes short scanned
    exact ⟨(if_neg apart).trans taken, fewer⟩

theorem member {name : List Char → Option (κ × List Char)}
    {next : List Char → Option (μ × List Char)} {g : κ → μ}
    (named : Follows n name next g) (follows : Follows n item other f) :
    Follows n (scanMember name item) (scanMember next other) (Prod.map g f) := by
  constructor
  intro cs rest entry short scanned
  simp only [scanMember, bind, Option.bind_eq_some_iff] at scanned
  obtain ⟨⟨key, behindKey⟩, first, behindColon, colon, ⟨v, after⟩, given, same⟩ := scanned
  cases same
  obtain ⟨key, fewer⟩ := named.takes short first
  obtain ⟨blanks, -, rfl⟩ := scanColon_sound colon
  simp only [List.length_append, List.length_cons] at fewer
  obtain ⟨taken, still⟩ := follows.takes (by omega) given
  exact ⟨by simp [scanMember, key, colon, taken], Nat.le_trans still (by omega)⟩

end Follows

/-! ## Values -/

theorem follows_name (n : Nat) : Follows n scanName skipName fun _ => () := by
  constructor
  intro cs rest name _ scanned
  obtain ⟨blanks, text, s, -, -, -, rfl⟩ := scanName_sound scanned
  refine ⟨skipName_of_scanName scanned, ?_⟩
  simp only [List.length_append, List.length_cons]
  omega

/-- Containers that are passed over may nest as deep as the text is long. -/
theorem follows_value (k d : Nat) : Follows k (scanValue d) (skipNested (k + 1)) fun _ => () := by
  -- on the length of the text, of which a container takes a character
  induction k using Nat.strongRecOn generalizing d with
  | ind k ih =>
      constructor
      intro cs rest v short scanned
      have narrow := length_skipBlanks_le cs
      rcases scanValue_eq_some_iff.mp scanned with ⟨inner, tail, items, -, next, listed, -⟩ |
        ⟨inner, tail, members, -, next, listed, -⟩ | ⟨noArray, noObject, single⟩
      · rw [next, List.length_cons] at narrow
        obtain ⟨k, rfl⟩ := Nat.exists_eq_add_one_of_ne_zero (by omega : k ≠ 0)
        have follows := ih k (Nat.lt_succ_self k) inner
        obtain ⟨taken, fewer⟩ := (follows.listing ']').takes (by omega) listed
        refine ⟨?_, by omega⟩
        rw [skipNested, next]
        simp [scanArray_eq, taken]
      · rw [next, List.length_cons] at narrow
        obtain ⟨k, rfl⟩ := Nat.exists_eq_add_one_of_ne_zero (by omega : k ≠ 0)
        have follows := (follows_name k).member (ih k (Nat.lt_succ_self k) inner)
        obtain ⟨taken, fewer⟩ := (follows.listing '}').takes (by omega) listed
        refine ⟨?_, by omega⟩
        rw [skipNested, next]
        simp [scanObject_eq, taken]
      · obtain ⟨text, split, -⟩ := scanScalar_sound single
        have taken : skipNested (k + 1) cs = skipScalar (skipBlanks cs) := by
          unfold skipNested
          split
          · exact absurd ‹_› (noArray _)
          · exact absurd ‹_› (noObject _)
          · rfl
        rw [split, List.length_append] at narrow
        exact ⟨taken.trans (skipScalar_of_scanScalar single), by omega⟩

theorem skipValue_of_scanValue {d : Nat} {v : Value} (scanned : scanValue d cs = some (v, rest)) :
    skipValue cs = some rest := by
  have taken := ((follows_value cs.length d).takes (Nat.le_refl _) scanned).1
  simp [skipValue, taken]

end DuplexRpc.Json
