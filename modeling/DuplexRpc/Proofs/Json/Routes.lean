import DuplexRpc.Proofs.Json.Typed

/-!
# Two routes to a typed value

A typed value is read straight from a text, or from the value that the text denotes.  Most readers
take the same on both routes.  Readers of records do not, since a member that is written twice is
refused in a text and forgotten in a value; but both routes lead back to what was written.
-/

namespace DuplexRpc.Json

theorem wellFormed_eq_ok_iff {α : Type} {a? : Option α} {a : α} :
    wellFormed a? = .ok a ↔ a? = some a := by
  cases a? <;> simp [wellFormed]

theorem fitting_eq_ok_iff {α : Type} {x : Except Mismatch α} {a : α} :
    fitting x = .ok a ↔ x = .ok a := by
  cases x <;> simp [fitting]

theorem expectScalar_eq_ok_iff {α : Type} {wanted : String} {accept : Value → Except Mismatch α}
    {cs rest : List Char} {a : α} :
    expectScalar wanted accept cs = .ok (a, rest) ↔
      (∀ tail, skipBlanks cs ≠ '[' :: tail) ∧ (∀ tail, skipBlanks cs ≠ '{' :: tail) ∧
        ∃ v, scanScalar (skipBlanks cs) = some (v, rest) ∧ accept v = .ok a := by
  unfold expectScalar
  split
  · simp_all
  · simp_all
  · simp only [bind_eq_ok_iff, wellFormed_eq_ok_iff, fitting_eq_ok_iff, Prod.exists,
      Except.ok.injEq, Prod.mk.injEq]
    grind

theorem scanValue_skipBlanks (d : Nat) (cs : List Char) :
    scanValue d (skipBlanks cs) = scanValue d cs := by
  obtain ⟨blanks, blank, split⟩ := skipBlanks_split cs
  conv_rhs => rw [split, scanValue_skip d blank]

/-- Only one value is written with a word that begins like this. -/
theorem scanValue_of_n {d : Nat} {cs tail rest : List Char} {v : Value}
    (next : skipBlanks cs = 'n' :: tail) (scanned : scanValue d cs = some (v, rest)) :
    v = .null ∧ skipBlanks cs = 'n' :: 'u' :: 'l' :: 'l' :: rest := by
  rcases scanValue_eq_some_iff.mp scanned with ⟨_, _, _, -, array, -⟩ | ⟨_, _, _, -, object, -⟩ |
    ⟨-, -, single⟩
  · cases next.symm.trans array
  · cases next.symm.trans object
  · obtain ⟨text, split, spelled⟩ := scanScalar_sound single
    rw [next] at split
    cases spelled with
    | null => exact ⟨rfl, next.trans split⟩
    | true | false | string => cases split
    | number spelled =>
        obtain ⟨c, cs, rfl, begins⟩ := spelled.eq_cons
        obtain ⟨rfl, -⟩ := List.cons.inj split
        rcases begins with minus | digit
        · cases minus
        · cases digit

theorem scanValue_null_iff {d : Nat} {cs rest : List Char} :
    scanValue d cs = some (.null, rest) ↔ skipBlanks cs = 'n' :: 'u' :: 'l' :: 'l' :: rest := by
  constructor
  · intro scanned
    obtain ⟨_, _, _, -, -, -, same⟩ | ⟨_, _, _, -, -, -, same⟩ | ⟨-, -, single⟩ :=
      scanValue_eq_some_iff.mp scanned
    · cases same
    · cases same
    · obtain ⟨text, split, spelled⟩ := scanScalar_sound single
      cases spelled with
      | null => exact split
      | number _ denoted =>
          obtain ⟨_, same, -⟩ | ⟨_, same⟩ := Numeral.value?_cases denoted <;> cases same
  · intro next
    exact scanValue_eq_some_iff.mpr (.inr (.inr (by simp [next, scanScalar])))

namespace Reader

/-- The text is taken on one route or the other. -/
def Decodes {α : Type} (r : Reader α) (text : String) (a : α) : Prop :=
  r.ofText text = .ok a ∨ ∃ v, parse text = some v ∧ r.ofValue v = .ok a

/-- The text is taken on both routes, as the same. -/
def ReadsBack {α : Type} (r : Reader α) (text : String) (a : α) : Prop :=
  r.ofText text = .ok a ∧ ∃ v, parse text = some v ∧ r.ofValue v = .ok a

/-! ## Readers that take the same on both routes -/

/-- The reader takes from a text what it takes from the value that it begins with. -/
structure Faithful {α : Type} (r : Reader α) : Prop where
  ofChars_iff : ∀ {d : Nat} {cs rest : List Char} {a : α},
    r.ofChars d cs = .ok (a, rest) ↔ ∃ v, scanValue d cs = some (v, rest) ∧ r.ofValue v = .ok a

variable {α β : Type} {r : Reader α}

theorem faithful_value : value.Faithful where
  ofChars_iff := by
    simp only [value, wellFormed_eq_ok_iff, Except.ok.injEq]
    grind

theorem faithful_scalar {wanted : String} {accept : Value → Except Mismatch α}
    (array : ∀ items a, accept (.array items) ≠ .ok a)
    (object : ∀ members a, accept (.object members) ≠ .ok a) :
    (scalar wanted accept).Faithful where
  ofChars_iff := by
    intro d cs rest a
    simp only [scalar, expectScalar_eq_ok_iff, scanValue_eq_some_iff]
    constructor
    · rintro ⟨noArray, noObject, v, scanned, accepted⟩
      exact ⟨v, .inr (.inr ⟨noArray, noObject, scanned⟩), accepted⟩
    · rintro ⟨v, ⟨_, _, _, _, _, _, rfl⟩ | ⟨_, _, _, _, _, _, rfl⟩ | ⟨noArray, noObject, scanned⟩,
        accepted⟩
      · exact absurd accepted (array _ _)
      · exact absurd accepted (object _ _)
      · exact ⟨noArray, noObject, v, scanned, accepted⟩

theorem Faithful.refine (faithful : r.Faithful) (check : α → Except Mismatch β) :
    (r.refine check).Faithful where
  ofChars_iff := by
    intro d cs rest b
    simp only [Reader.refine, bind_eq_ok_iff, fitting_eq_ok_iff, Prod.exists, faithful.ofChars_iff,
      Except.ok.injEq, Prod.mk.injEq]
    grind

theorem optional_ofChars_of_ne {d : Nat} {cs : List Char}
    (other : ∀ tail, skipBlanks cs ≠ 'n' :: tail) :
    r.optional.ofChars d cs = (do
      let (a, rest) ← r.ofChars d (skipBlanks cs)
      .ok (some a, rest)) := by
  simp only [Reader.optional]
  split
  · exact absurd ‹_› (other _)
  · exact absurd ‹_› (other _)
  · rfl

theorem Faithful.optional (faithful : r.Faithful) : r.optional.Faithful where
  ofChars_iff := by
    intro d cs rest a?
    simp only [optional_ofValue_iff]
    by_cases word : ∃ tail, skipBlanks cs = 'n' :: tail
    · obtain ⟨tail, next⟩ := word
      simp only [Reader.optional]
      split
      · rename_i after null
        have scanned := scanValue_null_iff (d := d).mpr null
        simp [scanned, and_comm]
      · rename_i apart begins
        refine iff_of_false (by simp) ?_
        rintro ⟨v, scanned, -⟩
        have null := (scanValue_of_n next scanned).2
        exact apart _ (List.cons.inj (begins.symm.trans null)).2
      · rename_i apart
        exact absurd next (apart tail)
    · have other : ∀ tail, skipBlanks cs ≠ 'n' :: tail := fun tail next => word ⟨tail, next⟩
      simp only [optional_ofChars_of_ne other, bind_eq_ok_iff, Prod.exists, faithful.ofChars_iff,
        scanValue_skipBlanks, Except.ok.injEq, Prod.mk.injEq]
      constructor
      · rintro ⟨a, _, ⟨v, scanned, read⟩, rfl, rfl⟩
        refine ⟨v, scanned, .inr ⟨?_, a, read, rfl⟩⟩
        rintro rfl
        exact other _ (scanValue_null_iff.mp scanned)
      · rintro ⟨v, scanned, ⟨rfl, -⟩ | ⟨-, a, read, rfl⟩⟩
        · exact absurd (scanValue_null_iff.mp scanned) (other _)
        · exact ⟨a, rest, ⟨v, scanned, read⟩, rfl, rfl⟩

theorem faithful_string : string.Faithful := faithful_scalar nofun nofun

theorem faithful_integer {wanted : String} {low high : Int} :
    (integer wanted low high).Faithful := faithful_scalar nofun nofun

theorem faithful_int64 : int64.Faithful := faithful_integer.refine _

theorem faithful_uint64 : uint64.Faithful := faithful_integer.refine _

end Reader

end DuplexRpc.Json
