import DuplexRpc.Proofs.Json.Grammar
import DuplexRpc.Proofs.Json.Members

/-!
# Written values

The text of a value without floats denotes that value again, with the members of its objects in
the order of their names.
-/

namespace DuplexRpc.Json

/-- Every number is an integer that its text keeps. -/
inductive Value.Exact : Value → Prop where
  | null : Exact .null
  | bool (b : Bool) : Exact (.bool b)
  | int {n : Int} (exact : isExactInteger n) : Exact (.int n)
  | string (s : String) : Exact (.string s)
  | array {items : List Value} (all : ∀ v ∈ items, Exact v) : Exact (.array items)
  | object {members : Members} (all : ∀ entry ∈ members, Exact entry.2) : Exact (.object members)

mutual
/-- How many containers are nested in each other. -/
def Value.depth : Value → Nat
  | .array items => itemsDepth items + 1
  | .object members => membersDepth members + 1
  | _ => 0
def itemsDepth : List Value → Nat
  | [] => 0
  | v :: rest => max v.depth (itemsDepth rest)
def membersDepth : List (String × Value) → Nat
  | [] => 0
  | (_, v) :: rest => max v.depth (membersDepth rest)
end

mutual
/-- The value with the members of every object in their order. -/
def Value.normal : Value → Value
  | .array items => .array (normalItems items)
  | .object members => .object (Members.ofList (normalMembers members))
  | v => v
def normalItems : List Value → List Value
  | [] => []
  | v :: rest => v.normal :: normalItems rest
def normalMembers : List (String × Value) → Members
  | [] => []
  | (name, v) :: rest => (name, v.normal) :: normalMembers rest
end

theorem depth_le_itemsDepth {v : Value} {items : List Value} (listed : v ∈ items) :
    v.depth ≤ itemsDepth items := by
  induction items with
  | nil => cases listed
  | cons w items ih =>
      rw [itemsDepth]
      rcases List.mem_cons.mp listed with rfl | later
      · exact Nat.le_max_left _ _
      · exact Nat.le_trans (ih later) (Nat.le_max_right _ _)

theorem depth_le_membersDepth {entry : String × Value} {members : Members}
    (listed : entry ∈ members) : entry.2.depth ≤ membersDepth members := by
  induction members with
  | nil => cases listed
  | cons other members ih =>
      rw [membersDepth]
      rcases List.mem_cons.mp listed with rfl | later
      · exact Nat.le_max_left _ _
      · exact Nat.le_trans (ih later) (Nat.le_max_right _ _)

/-- The members of every object are as a value keeps them: in the order of their names, one per
name. -/
inductive Value.Ordered : Value → Prop where
  | scalar {v : Value} (scalar : v.depth = 0) : Ordered v
  | array {items : List Value} (all : ∀ v ∈ items, Ordered v) : Ordered (.array items)
  | object {members : Members} (sorted : members.Sorted)
      (all : ∀ entry ∈ members, Ordered entry.2) : Ordered (.object members)

theorem Value.normal_of_scalar {v : Value} (scalar : v.depth = 0) : v.normal = v := by
  cases v with
  | array items => cases scalar
  | object members => cases scalar
  | _ => rfl

theorem normalItems_eq {items : List Value} (same : ∀ v ∈ items, v.normal = v) :
    normalItems items = items := by
  induction items with
  | nil => rfl
  | cons v items ih =>
      rw [normalItems, same v (by simp), ih fun v listed => same v (List.mem_cons_of_mem _ listed)]

theorem normalMembers_eq {members : Members} (same : ∀ entry ∈ members, entry.2.normal = entry.2) :
    normalMembers members = members := by
  induction members with
  | nil => rfl
  | cons entry members ih =>
      rw [normalMembers, same entry (by simp),
        ih fun entry listed => same entry (List.mem_cons_of_mem _ listed)]

@[simp] theorem names_normalMembers (members : Members) :
    Members.names (normalMembers members) = Members.names members := by
  induction members with
  | nil => rfl
  | cons entry members ih => simpa [normalMembers, Members.names] using ih

@[simp] theorem get?_normalMembers (name : String) (members : Members) :
    (normalMembers members).get? name = (members.get? name).map Value.normal := by
  induction members with
  | nil => rfl
  | cons entry members ih =>
      obtain ⟨other, v⟩ := entry
      by_cases same : name = other <;> simp [normalMembers, same, ih]

theorem get?_ofList_normalMembers {members : Members} (distinct : (Members.names members).Nodup)
    (name : String) :
    (Members.ofList (normalMembers members)).get? name = (members.get? name).map Value.normal := by
  rw [Members.get?_ofList_of_distinct (by simpa using distinct), get?_normalMembers]

theorem Value.Ordered.normal_eq {v : Value} (ordered : v.Ordered) : v.normal = v := by
  induction ordered with
  | scalar scalar => exact Value.normal_of_scalar scalar
  | array all ih => rw [Value.normal, normalItems_eq ih]
  | object sorted all ih => rw [Value.normal, normalMembers_eq ih, sorted.ofList_eq]

/-! ## Integers and strings -/

theorem isDigit_of_mem_toDigits {n : Nat} : ∀ c ∈ Nat.toDigits 10 n, c.isDigit :=
  fun _ listed => Nat.isDigit_of_mem_toDigits (by decide) (by decide) listed

theorem toDigits_eq_cons (n : Nat) :
    ∃ c digits, Nat.toDigits 10 n = c :: digits ∧ c.isDigit ∧ (0 < n → c ≠ '0') := by
  induction n using Nat.strongRecOn with
  | ind n ih =>
      by_cases small : n < 10
      · have digit : ∀ n < 10, (Nat.digitChar n).isDigit ∧ (0 < n → Nat.digitChar n ≠ '0') := by
          decide
        exact ⟨_, [], Nat.toDigits_of_lt_base small, digit n small⟩
      · obtain ⟨c, digits, written, digit, nonzero⟩ := ih (n / 10) (by omega)
        refine ⟨c, digits ++ [(n % 10).digitChar], ?_, digit, fun _ => nonzero (by omega)⟩
        rw [Nat.toDigits_of_base_le (by decide) (by omega), written, List.cons_append]

/-- The numeral that an integer is written as. -/
def Numeral.ofInt (n : Int) : Numeral := ⟨n < 0, Nat.toDigits 10 n.natAbs, none, none⟩

theorem Numeral.text_ofInt (n : Int) : (Numeral.ofInt n).Text (decimal n) := by
  obtain ⟨c, digits, written, -, nonzero⟩ := toDigits_eq_cons n.natAbs
  refine ⟨⟨⟨?nonempty, isDigit_of_mem_toDigits⟩, ?leading⟩, [], [], .absent, .absent, ?parts⟩
  case nonempty => simp [ofInt, written]
  case leading =>
      intro first
      rcases Nat.eq_zero_or_pos n.natAbs with zero | pos
      · simp [ofInt, zero, Nat.toDigits_zero]
      · simp only [ofInt, written, List.head?_cons, Option.some.injEq] at first
        exact absurd first (nonzero pos)
  case parts => by_cases negative : n < 0 <;> simp [decimal, ofInt, negative]

theorem Numeral.value?_ofInt {n : Int} (exact : isExactInteger n) :
    (Numeral.ofInt n).value? = some (.int n) := by
  have magnitude : (Numeral.ofInt n).magnitude = n.natAbs := Nat.ofDigitChars_ten_toDigits
  have signed : (if n < 0 then -(n.natAbs : Int) else n.natAbs) = n := by
    split <;> omega
  have nonzero : (decide (n < 0) && n.natAbs == 0) = false := by
    rw [Bool.and_eq_false_iff, decide_eq_false_iff_not, beq_eq_false_iff_ne]
    omega
  simp only [value?, magnitude]
  simp only [ofInt, decide_eq_true_eq, signed, nonzero, exact, Bool.false_eq_true, if_false,
    if_true]

theorem isInt64_toInt (n : Int64) : isInt64 n.toInt := by
  have low := Int64.le_toInt n
  have high := Int64.toInt_lt n
  simp only [isInt64, Bool.and_eq_true, decide_eq_true_eq]
  simp only [int64Min, int64Max]
  omega

theorem toInt_ofInt_of_isInt64 {n : Int} (fits : isInt64 n) : (Int64.ofInt n).toInt = n := by
  simp only [isInt64, Bool.and_eq_true, decide_eq_true_eq] at fits
  simp only [int64Min, int64Max] at fits
  apply Int64.toInt_ofInt_of_le <;> omega

theorem isExactInteger_of_isInt64 {n : Int} (fits : isInt64 n) : isExactInteger n := by
  simp only [isInt64, isExactInteger, Bool.and_eq_true, decide_eq_true_eq] at fits ⊢
  simp only [int64Min, int64Max, uint64Max] at fits ⊢
  omega

theorem isExactInteger_toNat (n : UInt64) : isExactInteger n.toNat := by
  have bounded := n.toNat_lt
  simp only [isExactInteger, Bool.and_eq_true, decide_eq_true_eq]
  simp only [int64Min, uint64Max]
  omega

theorem hexUnit?_control :
    ∀ n < 0x20, hexUnit? '0' '0' (Nat.digitChar (n / 16)) (Nat.digitChar (n % 16)) = some n := by
  decide

theorem StringText.escapeChar {text s : List Char} (c : Char) (later : StringText text s) :
    StringText (escapeChar c ++ text) (c :: s) := by
  by_cases named : c ∈ ['"', '\\', '\x08', '\x0c', '\n', '\r', '\t']
  · simp only [List.mem_cons, List.not_mem_nil, or_false] at named
    rcases named with rfl | rfl | rfl | rfl | rfl | rfl | rfl <;> exact .short rfl later
  · simp only [List.mem_cons, List.not_mem_nil, or_false, not_or] at named
    by_cases control : c.toNat < 0x20
    · have whole : ¬isHighSurrogate c.toNat ∧ ¬isLowSurrogate c.toNat := by
        simp only [isHighSurrogate, isLowSurrogate, Bool.and_eq_true, decide_eq_true_eq]
        omega
      have spelled := StringText.code (hexUnit?_control c.toNat control) whole later
      simpa [Json.escapeChar, named, control] using spelled
    · have spelled := StringText.plain named.1 named.2.1 (Nat.le_of_not_lt control) later
      simpa [Json.escapeChar, named, control] using spelled

theorem stringText_flatMap (s : List Char) : StringText (s.flatMap escapeChar) s := by
  induction s with
  | nil => exact .nil
  | cons c s ih => exact .escapeChar c ih

/-! ## Values -/

theorem Spaced.bare {α : Type} {item : List Char → α → Prop} {cs : List Char} {v : α}
    (spelled : item cs v) : Spaced item cs v :=
  ⟨cs, [], ⟨[], cs, by simp [Blanks], spelled, rfl⟩, by simp [Blanks], by simp⟩

theorem MemberText.bare {item : List Char → Value → Prop} {cs : List Char} {v : Value}
    (name : String) (given : item cs v) :
    MemberText item (renderString name ++ ':' :: cs) (name, v) := by
  have blank : Blanks [] := by simp [Blanks]
  have spelled := MemberText.named (stringText_flatMap name.toList) blank
    ⟨[], cs, blank, given, rfl⟩
  simpa [renderString] using spelled

theorem sequence_renderItems {item : List Char → Value → Prop} {items : List Value}
    (nonempty : items ≠ []) (spelled : ∀ v ∈ items, item v.render v.normal) :
    Sequence item (renderItems items) (normalItems items) := by
  induction items with
  | nil => exact absurd rfl nonempty
  | cons v items ih =>
      have first : Spaced item v.render v.normal := .bare (spelled v List.mem_cons_self)
      cases items with
      | nil => exact .last first
      | cons w items =>
          apply Sequence.more first
          apply ih (by simp)
          exact fun v listed => spelled v (List.mem_cons_of_mem _ listed)

theorem sequence_renderMembers {item : List Char → Value → Prop} {members : Members}
    (nonempty : members ≠ [])
    (spelled : ∀ entry ∈ members, item entry.2.render entry.2.normal) :
    Sequence (MemberText item) (renderMembers members) (normalMembers members) := by
  induction members with
  | nil => exact absurd rfl nonempty
  | cons entry members ih =>
      obtain ⟨name, v⟩ := entry
      have first : Spaced (MemberText item) (renderString name ++ ':' :: v.render)
          (name, v.normal) := .bare (.bare name (spelled _ List.mem_cons_self))
      cases members with
      | nil => exact .last first
      | cons next members =>
          have later := ih (by simp) fun entry listed =>
            spelled entry (List.mem_cons_of_mem _ listed)
          simpa [renderMembers, normalMembers] using Sequence.more first later

theorem Value.Exact.scalarText {v : Value} (exact : v.Exact) (scalar : v.depth = 0) :
    ScalarText v.render v := by
  cases exact with
  | null => exact .null
  | bool b =>
      cases b
      · exact .false
      · exact .true
  | int exact => exact .number (Numeral.text_ofInt _) (Numeral.value?_ofInt exact)
  | string s =>
      have spelled := ScalarText.string (stringText_flatMap s.toList)
      rwa [String.ofList_toList] at spelled
  | array all => cases scalar
  | object all => cases scalar

theorem ScalarText.valueText {cs : List Char} {v : Value} (spelled : ScalarText cs v)
    (depth : Nat) : ValueText depth cs v := by
  cases depth with
  | zero => exact spelled
  | succ depth => exact .inl spelled

theorem valueText_render {v : Value} {d : Nat} (exact : v.Exact) (depth : v.depth ≤ d) :
    ValueText d v.render v.normal := by
  -- on the depth, which bounds the recursion of the grammar
  induction d generalizing v with
  | zero =>
      have scalar := Nat.le_zero.mp depth
      rw [Value.normal_of_scalar scalar]
      exact exact.scalarText scalar
  | succ d ih =>
      cases exact with
      | @array items all =>
          have spelled : ∀ v ∈ items, ValueText d v.render v.normal := by
            intro v listed
            have inner := depth_le_itemsDepth listed
            simp only [Value.depth] at depth
            exact ih (all v listed) (by omega)
          have listing : Listing (ValueText d) (renderItems items) (normalItems items) := by
            by_cases empty : items = []
            · subst empty
              exact .none (by simp [Blanks, renderItems])
            · exact .some (sequence_renderItems empty spelled)
          exact .inr (.inl ⟨_, rfl, _, listing, rfl⟩)
      | @object members all =>
          have spelled : ∀ entry ∈ members, ValueText d entry.2.render entry.2.normal := by
            intro entry listed
            have inner := depth_le_membersDepth listed
            simp only [Value.depth] at depth
            exact ih (all entry listed) (by omega)
          have listing : Listing (MemberText (ValueText d)) (renderMembers members)
              (normalMembers members) := by
            by_cases empty : members = []
            · subst empty
              exact .none (by simp [Blanks, renderMembers])
            · exact .some (sequence_renderMembers empty spelled)
          exact .inr (.inr ⟨_, rfl, _, listing, rfl⟩)
      | null => exact ScalarText.null.valueText _
      | bool b => exact (Value.Exact.scalarText (.bool b) rfl).valueText _
      | int exact => exact (Value.Exact.scalarText (.int exact) rfl).valueText _
      | string s => exact (Value.Exact.scalarText (.string s) rfl).valueText _

theorem parse_text {v : Value} (exact : v.Exact) (depth : v.depth ≤ maxDepth) :
    parse v.text = some v.normal := by
  apply parseWithin_eq_some_iff.mpr
  rw [Value.text, String.toList_ofList]
  exact .bare (valueText_render exact depth)

end DuplexRpc.Json
