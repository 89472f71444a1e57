import DuplexRpc.Proofs.Json.Text

/-!
# What a text can denote

A value that was read has the members of its objects in order and one per name, nests no deeper
than its text, and holds only integers that a text keeps.  If it holds no float, its own text
denotes it again.
-/

namespace DuplexRpc.Json

/-- The first value is the second one or stands somewhere in it. -/
inductive Value.Within (w : Value) : Value → Prop where
  | self : Within w w
  | item {v : Value} {items : List Value} (listed : v ∈ items) (inner : Within w v) :
      Within w (.array items)
  | member {entry : String × Value} {members : Members} (listed : entry ∈ members)
      (inner : Within w entry.2) : Within w (.object members)

def Value.FloatFree (v : Value) : Prop := ∀ x, ¬Value.Within (.float x) v

variable {cs : List Char} {v : Value} {d : Nat}

/-! ## Listed items -/

theorem Sequence.spelled {α : Type} {item : List Char → α → Prop} {vs : List α}
    (items : Sequence item cs vs) : ∀ v ∈ vs, ∃ text, item text v := by
  have bare {cs : List Char} {v : α} (spaced : Spaced item cs v) : ∃ text, item text v := by
    obtain ⟨-, -, ⟨-, text, -, given, -⟩, -, -⟩ := spaced
    exact ⟨text, given⟩
  induction items with
  | last spaced => exact List.forall_mem_singleton.mpr (bare spaced)
  | more spaced _ ih => exact List.forall_mem_cons.mpr ⟨bare spaced, ih⟩

theorem Listing.spelled {α : Type} {item : List Char → α → Prop} {vs : List α}
    (listing : Listing item cs vs) : ∀ v ∈ vs, ∃ text, item text v := by
  cases listing with
  | none => simp
  | some items => exact items.spelled

theorem ObjectText.spelled {item : List Char → Value → Prop} {members : Members}
    (object : ObjectText item cs members) : ∀ entry ∈ members, ∃ text, item text entry.2 := by
  obtain ⟨_, listing, -⟩ := object
  rintro entry listed
  obtain ⟨_, -, -, -, text, -, given, -⟩ := listing.spelled entry listed
  exact ⟨text, given⟩

theorem itemsDepth_le {items : List Value} (bounded : ∀ v ∈ items, v.depth ≤ d) :
    itemsDepth items ≤ d := by
  induction items with
  | nil => exact Nat.zero_le d
  | cons v items ih =>
      rw [itemsDepth]
      exact Nat.max_le.mpr ⟨bounded v List.mem_cons_self,
        ih fun v listed => bounded v (List.mem_cons_of_mem _ listed)⟩

theorem membersDepth_le {members : Members} (bounded : ∀ entry ∈ members, entry.2.depth ≤ d) :
    membersDepth members ≤ d := by
  induction members with
  | nil => exact Nat.zero_le d
  | cons entry members ih =>
      rw [membersDepth]
      exact Nat.max_le.mpr ⟨bounded entry List.mem_cons_self,
        ih fun entry listed => bounded entry (List.mem_cons_of_mem _ listed)⟩

/-! ## Denoted values -/

theorem Numeral.value?_cases {n : Numeral} (denoted : n.value? = some v) :
    (∃ i, v = .int i ∧ isExactInteger i) ∨ ∃ x, v = .float x := by
  have rounded {x? : Option Decimal.Binary64} (denoted : x?.map Value.float = some v) :
      ∃ x, v = .float x := by
    obtain ⟨x, -, same⟩ := Option.map_eq_some_iff.mp denoted
    exact ⟨x, same.symm⟩
  simp only [Numeral.value?] at denoted
  split at denoted
  · generalize (if n.negative = true then -(n.magnitude : Int) else n.magnitude) = signed at denoted
    split at denoted
    · exact .inr (rounded denoted)
    · split at denoted
      · rename_i exact
        exact .inl ⟨_, (Option.some.inj denoted).symm, exact⟩
      · exact .inr (rounded denoted)
  · exact .inr (rounded denoted)

theorem ScalarText.depth_eq (spelled : ScalarText cs v) : v.depth = 0 := by
  cases spelled with
  | number _ denoted =>
      obtain ⟨_, rfl, -⟩ | ⟨_, rfl⟩ := Numeral.value?_cases denoted <;> rfl
  | _ => rfl

theorem ScalarText.exact (spelled : ScalarText cs v) (free : v.FloatFree) : v.Exact := by
  cases spelled with
  | null => exact .null
  | true | false => exact .bool _
  | string => exact .string _
  | number _ denoted =>
      obtain ⟨_, rfl, exact⟩ | ⟨x, rfl⟩ := Numeral.value?_cases denoted
      · exact .int exact
      · exact absurd .self (free x)

/-- What holds of scalars and of containers whose items it holds of, holds of every value that was
read. -/
theorem ValueText.keeps {motive : Nat → Value → Prop}
    (scalar : ∀ {d cs v}, ScalarText cs v → motive d v)
    (array : ∀ {d items}, (∀ v ∈ items, motive d v) → motive (d + 1) (.array items))
    (object : ∀ {d} {members : Members}, members.Sorted → (∀ entry ∈ members, motive d entry.2) →
      motive (d + 1) (.object members))
    (spelled : ValueText d cs v) : motive d v := by
  induction d generalizing cs v with
  | zero => exact scalar spelled
  | succ d ih =>
      rcases spelled with single | ⟨items, rfl, _, listing, -⟩ | ⟨members, rfl, written⟩
      · exact scalar single
      · apply array
        intro v listed
        obtain ⟨text, given⟩ := listing.spelled v listed
        exact ih given
      · apply object (Members.sorted_ofList members)
        intro entry listed
        obtain ⟨text, given⟩ := written.spelled entry (Members.mem_ofList listed)
        exact ih given

theorem ValueText.depth_le (spelled : ValueText d cs v) : v.depth ≤ d := by
  refine spelled.keeps (motive := fun d v => v.depth ≤ d) ?_ ?_ ?_
  · intro d cs v single
    exact Nat.le_trans (Nat.le_of_eq single.depth_eq) (Nat.zero_le d)
  · intro d items bounded
    exact Nat.succ_le_succ (itemsDepth_le bounded)
  · intro d members _ bounded
    exact Nat.succ_le_succ (membersDepth_le bounded)

theorem ValueText.ordered (spelled : ValueText d cs v) : v.Ordered :=
  spelled.keeps (motive := fun _ v => v.Ordered) (fun single => .scalar single.depth_eq) .array
    .object

theorem ValueText.exact (spelled : ValueText d cs v) (free : v.FloatFree) : v.Exact := by
  refine spelled.keeps (motive := fun _ v => v.FloatFree → v.Exact) ?_ ?_ ?_ free
  · intro d cs v single free
    exact single.exact free
  · intro d items exact free
    apply Value.Exact.array
    exact fun v listed => exact v listed fun x inner => free x (.item listed inner)
  · intro d members _ exact free
    apply Value.Exact.object
    exact fun entry listed => exact entry listed fun x inner => free x (.member listed inner)

/-! ## Whole texts -/

/-- Containers nest in the text at most as deep as a reader of whole texts goes. -/
def Denotes (text : String) (v : Value) : Prop := Spaced (ValueText maxDepth) text.toList v

/-- The text is an object with these members, in their order and as often as they are written. -/
def Writes (text : String) (members : Members) : Prop :=
  Spaced (ObjectText (ValueText (maxDepth - 1))) text.toList members

section Texts

variable {text : String} {members : Members}

theorem parse_eq_some_iff : parse text = some v ↔ Denotes text v := parseWithin_eq_some_iff

theorem parse_eq_none_iff : parse text = none ↔ ¬∃ v, Denotes text v := by
  simp [← parse_eq_some_iff, ← Option.ne_none_iff_exists']

theorem Denotes.unique {w : Value} (first : Denotes text v) (second : Denotes text w) : v = w := by
  have same := (parse_eq_some_iff.mpr first).symm.trans (parse_eq_some_iff.mpr second)
  exact Option.some.inj same

theorem denotes_object_iff :
    Denotes text (.object members) ↔
      ∃ written, Writes text written ∧ members = Members.ofList written := by
  constructor
  · rintro ⟨body, after, ⟨before, inner, blank, spelled, rfl⟩, narrow, split⟩
    rcases spelled with scalar | ⟨_, same, _⟩ | ⟨written, same, object⟩
    · cases scalar.depth_eq
    · cases same
    · exact ⟨written, ⟨_, after, ⟨before, inner, blank, object, rfl⟩, narrow, split⟩,
        Value.object.inj same⟩
  · rintro ⟨written, ⟨body, after, ⟨before, inner, blank, object, rfl⟩, narrow, split⟩, rfl⟩
    have spelled : ValueText maxDepth inner (.object (Members.ofList written)) :=
      .inr (.inr ⟨written, rfl, object⟩)
    exact ⟨_, after, ⟨before, inner, blank, spelled, rfl⟩, narrow, split⟩

theorem Denotes.sorted (denoted : Denotes text (.object members)) : members.Sorted := by
  obtain ⟨written, -, rfl⟩ := denotes_object_iff.mp denoted
  exact Members.sorted_ofList written

theorem Denotes.member {entry : String × Value} (denoted : Denotes text (.object members))
    (listed : entry ∈ members) : ∃ cs, ValueText (maxDepth - 1) cs entry.2 := by
  obtain ⟨written, ⟨_, _, ⟨_, _, _, object, _⟩, _, _⟩, rfl⟩ := denotes_object_iff.mp denoted
  exact object.spelled entry (Members.mem_ofList listed)

end Texts

end DuplexRpc.Json
