import Mathlib.Data.List.Nodup
import DuplexRpc.Proofs.Json.Routes
import DuplexRpc.Proofs.Json.Skipping

/-!
# What a record was read from

A record is read from an object or from an array, in a text or in a value.  Whichever it was, its
draft was filled with members: those of the object, the last one of each name counting, or the items
of the array under the names of the fields.  A text may hold what denotes no value as long as it is
passed over, so members are followed here one name at a time.
-/

namespace DuplexRpc.Json

/-! ## Members of one name -/

/-- Reads a member of the given name, and passes over any other. -/
def scanOnly (name : String) (depth : Nat) (cs : List Char) :
    Option ((String × Value) × List Char) := do
  let (key, cs) ← scanName cs
  let cs ← scanColon cs
  if key = name then
    let (v, cs) ← scanValue depth cs
    some ((key, v), cs)
  else
    let cs ← skipValue cs
    some ((key, .null), cs)

/-- What is left of a member when only those of the given name are read. -/
def only (name : String) (entry : String × Value) : String × Value :=
  (entry.1, if entry.1 = name then entry.2 else .null)

/-- The text is an object, and these are its members as far as those of the given name are read. -/
def WritesOnly (name text : String) (written : Members) : Prop :=
  ∃ tail rest, skipBlanks text.toList = '{' :: tail ∧
    scanListing '}' (scanOnly name (maxDepth - 1)) tail = some (written, rest) ∧
    skipBlanks rest = []

variable {name key text : String} {d : Nat} {cs after rest : List Char} {v : Value}
  {written : Members}

theorem WritesOnly.unique {again : Members} (first : WritesOnly name text written)
    (second : WritesOnly name text again) : written = again := by
  obtain ⟨tail, rest, begins, scanned, -⟩ := first
  obtain ⟨tail', rest', begins', scanned', -⟩ := second
  obtain ⟨-, rfl⟩ := List.cons.inj (begins.symm.trans begins')
  exact (Prod.mk.inj (Option.some.inj (scanned.symm.trans scanned'))).1

theorem scanOnly_eq_some (named : scanName cs = some (key, after))
    {inner : List Char} (colon : scanColon after = some inner)
    (scanned : scanValue d inner = some (v, rest)) :
    scanOnly name d cs = some (only name (key, v), rest) := by
  have skipped := skipValue_of_scanValue scanned
  by_cases same : key = name <;> simp [scanOnly, only, named, colon, scanned, skipped, same]

theorem get?_map_only (written : Members) :
    Members.get? name (written.map (only name)) = written.get? name := by
  induction written with
  | nil => rfl
  | cons entry written ih =>
      obtain ⟨key, v⟩ := entry
      by_cases same : name = key
      · simp [only, same]
      · simp [only, same, ih]

theorem follows_only (name : String) (n : Nat) :
    Follows n (scanMember scanName (scanValue d)) (scanOnly name d) (only name) := by
  constructor
  intro cs rest entry _ scanned
  obtain ⟨body, rfl, -⟩ := (scans_member (scans_value d)).sound scanned
  simp only [scanMember, bind, Option.bind_eq_some_iff] at scanned
  obtain ⟨⟨key, after⟩, named, inner, colon, ⟨v, left⟩, given, same⟩ := scanned
  cases same
  exact ⟨scanOnly_eq_some named colon given, by simp⟩

/-- An object that a text denotes has the members that are read one name at a time. -/
theorem WritesOnly.of_parse {members : Members} (name : String)
    (parsed : parse text = some (.object members)) :
    ∃ written, WritesOnly name text (written.map (only name)) ∧
      members = Members.ofList written := by
  obtain ⟨rest, scanned, blank⟩ := parseWithin_eq_some.mp parsed
  obtain ⟨_, _, _, -, -, -, same⟩ | ⟨inner, tail, written, depth, begins, listed, same⟩ |
    ⟨-, -, single⟩ := scanValue_eq_some_iff.mp scanned
  · cases same
  · obtain rfl : inner = maxDepth - 1 := by omega
    obtain ⟨taken, -⟩ := ((follows_only name tail.length).listing '}').takes
      (Nat.le_refl _) listed
    exact ⟨written, ⟨tail, rest, begins, taken, blank⟩, Value.object.inj same⟩
  · obtain ⟨_, -, spelled⟩ := scanScalar_sound single
    cases spelled.depth_eq

/-! ## Objects -/

section Fields

variable {σ α β : Type}

/-- The field takes from a text what it takes from the value that it begins with. -/
structure Field.Faithful (field : Field σ) : Prop where
  ofChars_iff : ∀ {d : Nat} {cs rest : List Char} {draft next : σ},
    field.ofChars d cs draft = .ok (next, rest) ↔
      ∃ v, scanValue d cs = some (v, rest) ∧ field.ofValue v draft = .ok next

theorem Reader.Faithful.field {name : String} {required : Bool} {rd : Reader β}
    {get : σ → Option β} {set : β → σ → σ} (faithful : rd.Faithful) :
    (Field.of name required rd get set).Faithful where
  ofChars_iff := by
    intro d cs rest draft next
    simp only [Field.of, bind_eq_ok_iff, Prod.exists, faithful.ofChars_iff, Except.ok.injEq,
      Prod.mk.injEq]
    grind

namespace Record

variable {r : Record σ α} {draft next filled : σ} {items : List Value} {a : α}

def names (r : Record σ α) : List String := r.fields.map (·.name)

/-- Every field has a name of its own, and takes from a text what it takes from a value. -/
structure Faithful (r : Record σ α) : Prop where
  fields : ∀ field ∈ r.fields, field.Faithful
  distinct : r.names.Nodup

theorem field?_eq_none_iff : r.field? name = none ↔ name ∉ r.names := by
  simp [field?, names]

theorem field?_of_mem {field : Field σ} (distinct : r.names.Nodup) (listed : field ∈ r.fields) :
    r.field? field.name = some field := by
  cases known : r.field? field.name with
  | none => exact absurd (List.mem_map_of_mem listed) (field?_eq_none_iff.mp known)
  | some found =>
      have same : found.name = field.name := by simpa using List.find?_some known
      exact congrArg some
        (List.inj_on_of_nodup_map distinct (List.mem_of_find?_eq_some known) listed same)

theorem Faithful.memberOfChars (faithful : r.Faithful) (known : name ∈ r.names)
    (named : scanName cs = some (key, after))
    (read : r.memberOfChars d key after draft = .ok (next, rest)) :
    ∃ v, scanOnly name d cs = some (only name (key, v), rest) ∧
      r.take draft (key, v) = .ok next := by
  unfold Record.memberOfChars at read
  cases found : r.field? key with
  | none =>
      simp only [found, bind_eq_ok_iff, wellFormed_eq_ok_iff, Except.ok.injEq, Prod.mk.injEq]
        at read
      obtain ⟨inner, colon, _, skipped, rfl, rfl⟩ := read
      have other : key ≠ name := by
        rintro rfl
        exact field?_eq_none_iff.mp found known
      exact ⟨.null, by simp [scanOnly, only, named, colon, skipped, other], by simp [take, found]⟩
  | some field =>
      simp only [found] at read
      split at read
      · cases read
      · simp only [bind_eq_ok_iff, wellFormed_eq_ok_iff] at read
        obtain ⟨inner, colon, taken⟩ := read
        obtain ⟨v, scanned, read⟩ :=
          (faithful.fields field (List.mem_of_find?_eq_some found)).ofChars_iff.mp taken
        exact ⟨v, scanOnly_eq_some named colon scanned, by simp [take, found, read]⟩

theorem Faithful.membersOfChars {fuel : Nat} (faithful : r.Faithful) (known : name ∈ r.names)
    (read : r.membersOfChars d fuel cs draft = .ok (filled, rest)) :
    ∃ written, scanSequence '}' (scanOnly name d) fuel cs =
        some (written.map (only name), rest) ∧ r.fillMembers draft written = .ok filled := by
  induction fuel generalizing cs draft with
  | zero => cases read
  | succ fuel ih =>
      simp only [Record.membersOfChars, bind_eq_ok_iff, wellFormed_eq_ok_iff, Prod.exists] at read
      obtain ⟨key, after, named, next, behind, taken, read⟩ := read
      obtain ⟨v, scanned, filled⟩ := faithful.memberOfChars known named taken
      split at read
      · rename_i tail more
        obtain ⟨written, later, fills⟩ := ih read
        refine ⟨(key, v) :: written, by simp [scanSequence, scanned, more, later], ?_⟩
        rw [fillMembers_cons, bind_eq_ok_iff]
        exact ⟨next, filled, fills⟩
      · rename_i tail closed
        cases read
        refine ⟨[(key, v)], by simp [scanSequence, scanned, closed], ?_⟩
        rw [fillMembers_cons, bind_eq_ok_iff]
        exact ⟨_, filled, rfl⟩
      · cases read

/-! ## Arrays -/

/-- What follows an item of an array, up to what is behind the array. -/
inductive Continues (d : Nat) : List Char → List Value → List Char → Prop where
  | closed {blanks after : List Char} (blank : Blanks blanks) :
      Continues d (blanks ++ ']' :: after) [] after
  | more {blanks text after : List Char} {items : List Value} (blank : Blanks blanks)
      (later : Sequence (ValueText d) text items) :
      Continues d (blanks ++ ',' :: (text ++ ']' :: after)) items after

theorem Continues.sequence {body : List Char} (indented : Indented (ValueText d) body v)
    (continues : Continues d cs items after) :
    ∃ text, body ++ cs = text ++ ']' :: after ∧ Sequence (ValueText d) text (v :: items) := by
  cases continues with
  | closed blank =>
      exact ⟨_, (List.append_assoc ..).symm, .last ⟨body, _, indented, blank, rfl⟩⟩
  | more blank later =>
      exact ⟨_, by simp, .more ⟨body, _, indented, blank, rfl⟩ later⟩

variable {n : Nat} {fields : List (Field σ)}

theorem itemsOfChars_of_closed {tail : List Char} (closed : skipBlanks cs = ']' :: tail)
    (read : r.itemsOfChars d n fields cs draft = .ok (filled, rest)) :
    rest = ']' :: tail ∧ r.fillItems n fields draft [] = .ok (filled, []) := by
  have solid : isBlank ']' = false := by decide
  induction fields generalizing cs with
  | nil =>
      simp only [itemsOfChars, closed] at read
      cases read
      exact ⟨rfl, rfl⟩
  | cons field fields ih =>
      simp only [itemsOfChars, closed] at read
      split at read
      · cases read
      · rename_i optional
        obtain ⟨behind, fills⟩ := ih (skipBlanks_cons solid) read
        exact ⟨behind, fillItems_missing_iff.mpr ⟨by simpa using optional, fills⟩⟩

/-- The array ends here, or the next field reads an item, behind a comma if it is not the first. -/
theorem itemsOfChars_cases
    (read : r.itemsOfChars d n fields cs draft = .ok (filled, ']' :: after)) :
    (∃ blanks, Blanks blanks ∧ cs = blanks ++ ']' :: after ∧
      r.fillItems n fields draft [] = .ok (filled, [])) ∨
    ∃ field others start next behind, fields = field :: others ∧
      (n = 0 ∧ skipBlanks cs = start ∨ n ≠ 0 ∧ skipBlanks cs = ',' :: start) ∧
      field.ofChars d start draft = .ok (next, behind) ∧
      r.itemsOfChars d (n + 1) others behind next = .ok (filled, ']' :: after) := by
  obtain ⟨blanks, blank, divided⟩ := skipBlanks_split cs
  by_cases closed : ∃ tail, skipBlanks cs = ']' :: tail
  · obtain ⟨tail, closed⟩ := closed
    obtain ⟨behind, fills⟩ := itemsOfChars_of_closed closed read
    exact .inl ⟨blanks, blank, by rw [behind, ← closed, ← divided], fills⟩
  right
  cases fields with
  | nil =>
      simp only [itemsOfChars, Except.ok.injEq, Prod.mk.injEq] at read
      exact absurd ⟨after, read.2⟩ closed
  | cons field others =>
      unfold itemsOfChars at read
      split at read
      · exact absurd ⟨_, ‹_›⟩ closed
      · obtain ⟨⟨next, behind⟩, taken, read⟩ := bind_eq_ok_iff.mp read
        exact ⟨field, others, _, next, behind, rfl, .inl ⟨rfl, rfl⟩, taken, read⟩
      · rename_i zero comma
        obtain ⟨⟨next, behind⟩, taken, read⟩ := bind_eq_ok_iff.mp read
        exact ⟨field, others, _, next, behind, rfl, .inr ⟨zero, comma⟩, taken, read⟩
      · cases read

theorem itemsOfChars_continues (faithful : ∀ field ∈ fields, field.Faithful) (later : n ≠ 0)
    (read : r.itemsOfChars d n fields cs draft = .ok (filled, ']' :: after)) :
    ∃ items, Continues d cs items after ∧
      r.fillItems n fields draft items = .ok (filled, []) := by
  -- on the fields, of which each item takes one
  induction fields generalizing n cs draft with
  | nil =>
      obtain ⟨blanks, blank, rfl, fills⟩ | ⟨_, _, _, _, _, same, _⟩ := itemsOfChars_cases read
      · exact ⟨[], .closed blank, fills⟩
      · cases same
  | cons field fields ih =>
      obtain ⟨own, others⟩ := List.forall_mem_cons.mp faithful
      obtain ⟨blanks, blank, rfl, fills⟩ | ⟨_, _, start, next, behind, same, ⟨zero, -⟩ | ⟨-, comma⟩,
        taken, onward⟩ := itemsOfChars_cases read
      · exact ⟨[], .closed blank, fills⟩
      · exact absurd zero later
      · cases same
        obtain ⟨v, scanned, filled⟩ := own.ofChars_iff.mp taken
        obtain ⟨body, rfl, indented⟩ := (scans_value d).sound scanned
        obtain ⟨items, continues, fills⟩ := ih others (Nat.succ_ne_zero n) onward
        obtain ⟨text, written, sequence⟩ := continues.sequence indented
        obtain ⟨blanks, blank, divided⟩ := skipBlanks_split cs
        refine ⟨v :: items, ?_, fillItems_cons_iff.mpr ⟨next, filled, fills⟩⟩
        rw [divided, comma, written]
        exact .more blank sequence

/-- Items that were read are listed as the grammar has it. -/
theorem itemsOfChars_listing (faithful : ∀ field ∈ fields, field.Faithful)
    (read : r.itemsOfChars d 0 fields cs draft = .ok (filled, ']' :: after)) :
    ∃ items text, cs = text ++ ']' :: after ∧ Listing (ValueText d) text items ∧
      r.fillItems 0 fields draft items = .ok (filled, []) := by
  obtain ⟨blanks, blank, rfl, fills⟩ | ⟨field, others, start, next, behind, rfl,
    ⟨-, begins⟩ | ⟨first, -⟩, taken, onward⟩ := itemsOfChars_cases read
  · exact ⟨[], blanks, rfl, .none blank, fills⟩
  · obtain ⟨own, others⟩ := List.forall_mem_cons.mp faithful
    obtain ⟨v, scanned, filled⟩ := own.ofChars_iff.mp taken
    rw [← begins, scanValue_skipBlanks] at scanned
    obtain ⟨body, rfl, indented⟩ := (scans_value d).sound scanned
    obtain ⟨items, continues, fills⟩ := itemsOfChars_continues others Nat.one_ne_zero onward
    obtain ⟨text, written, sequence⟩ := continues.sequence indented
    exact ⟨v :: items, text, written, .some sequence,
      fillItems_cons_iff.mpr ⟨next, filled, fills⟩⟩
  · exact absurd rfl first

/-- The items of an array fill in what members of the fields' names would. -/
theorem fillMembers_zip (own : ∀ field ∈ fields, r.field? field.name = some field)
    (fills : r.fillItems n fields draft items = .ok (filled, [])) :
    r.fillMembers draft ((fields.map (·.name)).zip items) = .ok filled := by
  induction fields generalizing n draft items with
  | nil =>
      rw [fillItems_nil] at fills
      cases fills
      rfl
  | cons field fields ih =>
      obtain ⟨known, others⟩ := List.forall_mem_cons.mp own
      cases items with
      | nil => simpa using ih others (fillItems_missing_iff.mp fills).2
      | cons v items =>
          obtain ⟨next, filled, fills⟩ := fillItems_cons_iff.mp fills
          rw [List.map_cons, List.zip_cons_cons, fillMembers_cons, bind_eq_ok_iff]
          exact ⟨next, by simp [take, known, filled], ih others fills⟩

/-! ## Whole texts -/

theorem Faithful.ofChars (faithful : r.Faithful) (known : name ∈ r.names)
    (read : r.ofChars d cs = .ok (a, rest)) :
    ∃ inner tail filled, d = inner + 1 ∧ r.build filled = .ok a ∧
      ((∃ written, skipBlanks cs = '{' :: tail ∧ r.fillMembers r.empty written = .ok filled ∧
          scanListing '}' (scanOnly name inner) tail = some (written.map (only name), rest)) ∨
        ∃ items text, skipBlanks cs = '[' :: tail ∧ tail = text ++ ']' :: rest ∧
          Listing (ValueText inner) text items ∧
          r.fillItems 0 r.fields r.empty items = .ok (filled, [])) := by
  unfold Record.ofChars at read
  -- no room for a container, twice; an object; an array; and what is no container
  split at read
  · cases read
  · cases read
  · rename_i tail inner begins
    split at read
    · rename_i after closed
      obtain ⟨b, built, same⟩ := bind_eq_ok_iff.mp read
      cases same
      refine ⟨inner, tail, r.empty, rfl, fitting_eq_ok_iff.mp built, .inl ⟨[], begins, rfl, ?_⟩⟩
      simp [scanListing, closed]
    · rename_i unclosed
      simp only [bind_eq_ok_iff, fitting_eq_ok_iff, Prod.exists] at read
      obtain ⟨filled, _, read, b, built, same⟩ := read
      cases same
      obtain ⟨written, scanned, fills⟩ := faithful.membersOfChars known read
      refine ⟨inner, tail, filled, rfl, built, .inl ⟨written, begins, fills, ?_⟩⟩
      rw [scanListing, if_neg, scanned]
      intro closed
      obtain ⟨after, closed⟩ := List.head?_eq_some_iff.mp closed
      exact unclosed after closed
  · rename_i tail inner begins
    simp only [bind_eq_ok_iff, fitting_eq_ok_iff, Prod.exists] at read
    obtain ⟨filled, _, read, b, built, same⟩ := read
    split at same
    · cases same
      obtain ⟨items, text, split, listing, fills⟩ := itemsOfChars_listing faithful.fields read
      exact ⟨inner, tail, filled, rfl, built, .inr ⟨items, text, begins, split, listing, fills⟩⟩
    · cases same
  · obtain ⟨-, -, v, -, refused⟩ := expectScalar_eq_ok_iff.mp read
    cases refused

end Record
end Fields

/-- What the text says for a name: the last member of that name, or the item in its place. -/
inductive Gives (names : List String) (name text : String) : Option Value → Prop where
  | object {written : Members} (writes : WritesOnly name text written) :
      Gives names name text (Members.get? name written.reverse)
  | array {items : List Value} (denoted : Denotes text (.array items)) :
      Gives names name text items[names.idxOf name]?

namespace Gives

variable {names : List String} {v? w? : Option Value} {members : Members} {items : List Value}

/-- The text of an object is not the text of an array. -/
theorem not_array (writes : WritesOnly name text written) : ¬Denotes text (.array items) := by
  intro denoted
  obtain ⟨_, _, object, -⟩ := writes
  obtain ⟨rest, scanned, -⟩ := parseWithin_eq_some.mp (parse_eq_some_iff.mpr denoted)
  obtain ⟨_, _, _, -, array, -⟩ | ⟨_, _, _, -, -, -, same⟩ | ⟨-, -, single⟩ :=
    scanValue_eq_some_iff.mp scanned
  · cases object.symm.trans array
  · cases same
  · obtain ⟨_, -, spelled⟩ := scanScalar_sound single
    cases spelled.depth_eq

theorem unique (first : Gives names name text v?) (second : Gives names name text w?) :
    v? = w? := by
  cases first with
  | object writes =>
      cases second with
      | object again => rw [writes.unique again]
      | array denoted => exact absurd denoted (not_array writes)
  | array denoted =>
      cases second with
      | object writes => exact absurd denoted (not_array writes)
      | array again => rw [Value.array.inj (denoted.unique again)]

theorem of_object (denoted : Denotes text (.object members)) :
    Gives names name text (members.get? name) := by
  obtain ⟨written, writes, rfl⟩ := WritesOnly.of_parse name (parse_eq_some_iff.mpr denoted)
  have given : Gives names name text _ := .object writes
  rwa [← List.map_reverse, get?_map_only, ← Members.get?_ofList] at given

theorem get?_zip (known : name ∈ names) :
    Members.get? name (names.zip items) = items[names.idxOf name]? := by
  induction names generalizing items with
  | nil => cases known
  | cons other names ih =>
      cases items with
      | nil => simp
      | cons v items =>
          by_cases same : name = other
          · simp [same]
          · have later : name ∈ names := by simpa [same] using known
            have apart : other ≠ name := fun again => same again.symm
            simp [same, ih later, List.idxOf_cons_ne _ apart]

theorem names_zip_sublist : (Members.names (names.zip items)).Sublist names := by
  induction names generalizing items with
  | nil => exact .slnil
  | cons name names ih =>
      cases items with
      | nil => exact List.nil_sublist _
      | cons v items => exact ih.cons_cons name

theorem of_array (distinct : names.Nodup) (known : name ∈ names)
    (denoted : Denotes text (.array items)) :
    Gives names name text (Members.get? name (names.zip items).reverse) := by
  have few : (Members.names (names.zip items)).Nodup :=
    distinct.sublist names_zip_sublist
  rw [Members.get?_reverse few, get?_zip known]
  exact .array denoted

end Gives

namespace Record

variable {σ α β : Type} {r : Record σ α} {draft filled : σ} {items : List Value} {a : α}

theorem Faithful.gives_of_items (faithful : r.Faithful) (known : name ∈ r.names)
    (denoted : Denotes text (.array items))
    (fills : r.fillItems 0 r.fields draft items = .ok (filled, [])) :
    ∃ written, r.fillMembers draft written = .ok filled ∧
      Gives r.names name text (Members.get? name written.reverse) :=
  ⟨r.names.zip items, fillMembers_zip (fun _ => field?_of_mem faithful.distinct) fills,
    .of_array faithful.distinct known denoted⟩

theorem Faithful.gives_of_text (faithful : r.Faithful) (known : name ∈ r.names)
    (read : r.reader.ofText text = .ok a) :
    ∃ written filled, r.fillMembers r.empty written = .ok filled ∧ r.build filled = .ok a ∧
      Gives r.names name text (Members.get? name written.reverse) := by
  simp only [Reader.ofText, reader, bind_eq_ok_iff, Prod.exists] at read
  obtain ⟨a, rest, read, finished⟩ := read
  split at finished
  · rename_i blank
    cases finished
    obtain ⟨inner, tail, filled, depth, built, ⟨written, begins, fills, scanned⟩ |
      ⟨items, listed, begins, rfl, listing, fills⟩⟩ := faithful.ofChars known read
    · obtain rfl : inner = maxDepth - 1 := by omega
      have writes : WritesOnly name text (written.map (only name)) :=
        ⟨tail, rest, begins, scanned, List.isEmpty_iff.mp blank⟩
      have given : Gives r.names name text _ := .object writes
      rw [← List.map_reverse, get?_map_only] at given
      exact ⟨written, filled, fills, built, given⟩
    · obtain rfl : inner = maxDepth - 1 := by omega
      obtain ⟨blanks, before, split⟩ := skipBlanks_split text.toList
      have spelled : ValueText maxDepth ('[' :: (listed ++ [']'])) (.array items) :=
        .inr (.inl ⟨items, rfl, listed, listing, rfl⟩)
      have denoted : Denotes text (.array items) :=
        ⟨_, rest, ⟨blanks, _, before, spelled, rfl⟩,
          blanks_of_skipBlanks (List.isEmpty_iff.mp blank), by rw [split, begins]; simp⟩
      obtain ⟨written, fills, given⟩ := faithful.gives_of_items known denoted fills
      exact ⟨written, filled, fills, built, given⟩
  · cases finished

/-- Whatever is decoded was filled with members, and the text gives the last one of the name. -/
theorem Faithful.gives (faithful : r.Faithful) (known : name ∈ r.names)
    (decoded : r.reader.Decodes text a) :
    ∃ written filled, r.fillMembers r.empty written = .ok filled ∧ r.build filled = .ok a ∧
      Gives r.names name text (Members.get? name written.reverse) := by
  rcases decoded with read | ⟨v, parsed, read⟩
  · exact faithful.gives_of_text known read
  have denoted := parse_eq_some_iff.mp parsed
  cases v with
  | object members =>
      obtain ⟨filled, fills, built⟩ := bind_eq_ok_iff.mp read
      refine ⟨members, filled, fills, built, ?_⟩
      rw [Members.get?_reverse denoted.sorted.nodup_names]
      exact .of_object denoted
  | array items =>
      obtain ⟨filled, fills, built⟩ := ofValue_array_iff.mp read
      obtain ⟨written, fills, given⟩ := faithful.gives_of_items known denoted fills
      exact ⟨written, filled, fills, built, given⟩
  | _ => cases read

end Record

/-! ## One part of a record -/

section Parts

variable {σ α β γ : Type} {r : Record σ α} {draft filled : σ} {rd : Reader β} {get : σ → Option β}

/-- The field leaves a part of the draft as it is. -/
def Field.Keeps (field : Field σ) (get : σ → Option β) : Prop :=
  ∀ {v : Value} {draft next : σ}, field.ofValue v draft = .ok next → get next = get draft

theorem Field.keeps_of {required : Bool} {other : Reader γ} {look : σ → Option γ}
    {set : γ → σ → σ} (same : ∀ c draft, get (set c draft) = get draft) :
    (Field.of name required other look set).Keeps get := by
  intro v draft next took
  obtain ⟨c, -, rfl⟩ := Field.of_ofValue_eq_ok_iff.mp took
  exact same c draft

namespace Record

/-- One part of the draft is filled in by the members of the name, and by no others. -/
structure Sets (r : Record σ α) (name : String) (rd : Reader β) (get : σ → Option β) : Prop where
  own : ∀ {v : Value} {draft next : σ}, r.take draft (name, v) = .ok next →
    ∃ b, rd.ofValue v = .ok b ∧ get next = some b
  other : ∀ {key : String} {v : Value} {draft next : σ}, key ≠ name →
    r.take draft (key, v) = .ok next → get next = get draft

/-- The part holds what the last member of the name says. -/
inductive Held (rd : Reader β) : Option Value → Option β → Option β → Prop where
  | kept {b? : Option β} : Held rd none b? b?
  | read {v : Value} {b : β} {b? : Option β} (read : rd.ofValue v = .ok b) :
      Held rd (some v) b? (some b)

theorem Sets.of_fields {required : Bool} {look : σ → Option β} {set : β → σ → σ}
    (known : r.field? name = some (Field.of name required rd look set))
    (own : ∀ b draft, get (set b draft) = some b)
    (others : ∀ field ∈ r.fields, field.name ≠ name → field.Keeps get) : r.Sets name rd get where
  own := by
    intro v draft next took
    simp only [take, known] at took
    obtain ⟨b, read, rfl⟩ := Field.of_ofValue_eq_ok_iff.mp took
    exact ⟨b, read, own b draft⟩
  other := by
    intro key v draft next different took
    cases found : r.field? key with
    | none =>
        simp only [take, found] at took
        cases took
        rfl
    | some field =>
        simp only [take, found] at took
        have same : field.name = key := by simpa using List.find?_some found
        exact others field (List.mem_of_find?_eq_some found) (same ▸ different) took

theorem Sets.fillMembers {members : Members}
    (sets : r.Sets name rd get) (fills : r.fillMembers draft members = .ok filled) :
    Held rd (Members.get? name members.reverse) (get draft) (get filled) := by
  induction members generalizing draft with
  | nil =>
      cases fills
      exact .kept
  | cons entry members ih =>
      obtain ⟨key, v⟩ := entry
      rw [fillMembers_cons, bind_eq_ok_iff] at fills
      obtain ⟨next, took, later⟩ := fills
      have held := ih later
      rw [List.reverse_cons, Members.get?_append, Members.get?_cons]
      by_cases same : key = name
      · subst same
        obtain ⟨b, read, set⟩ := sets.own took
        rw [set] at held
        rw [if_pos rfl]
        generalize Members.get? key members.reverse = last?, get filled = b? at held ⊢
        cases held with
        | kept => exact .read read
        | read again => exact .read again
      · rw [sets.other same took] at held
        simpa [Ne.symm same] using held

end Record
end Parts

end DuplexRpc.Json
