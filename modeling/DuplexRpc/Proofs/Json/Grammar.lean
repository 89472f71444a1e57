import DuplexRpc.Proofs.Json.Listing

/-!
# The grammar of a text

Which texts denote which value, how deep containers nest in them, and that a text is read exactly
when the grammar has it: then the reader gives the value that it denotes.
-/

namespace DuplexRpc.Json

inductive MemberText (item : List Char → Value → Prop) : List Char → String × Value → Prop where
  | named {name s blanks cs : List Char} {v : Value} (spelled : StringText name s)
      (blank : Blanks blanks) (given : Indented item cs v) :
      MemberText item ('"' :: (name ++ '"' :: (blanks ++ ':' :: cs))) (String.ofList s, v)

inductive ScalarText : List Char → Value → Prop where
  | null : ScalarText ['n', 'u', 'l', 'l'] .null
  | true : ScalarText ['t', 'r', 'u', 'e'] (.bool true)
  | false : ScalarText ['f', 'a', 'l', 's', 'e'] (.bool false)
  | number {n : Numeral} {cs : List Char} {v : Value} (spelled : n.Text cs)
      (denoted : n.value? = some v) : ScalarText cs v
  | string {cs s : List Char} (spelled : StringText cs s) :
      ScalarText ('"' :: (cs ++ ['"'])) (.string (String.ofList s))

def ArrayText (item : List Char → Value → Prop) (cs : List Char) (items : List Value) : Prop :=
  ∃ listing, Listing item listing items ∧ cs = '[' :: (listing ++ [']'])

/-- An object with its members as they are written, however often a name occurs. -/
def ObjectText (item : List Char → Value → Prop) (cs : List Char) (members : Members) : Prop :=
  ∃ listing, Listing (MemberText item) listing members ∧ cs = '{' :: (listing ++ ['}'])

/-- The text denotes the value, and containers nest in it at most so deep. -/
def ValueText : Nat → List Char → Value → Prop
  | 0, cs, v => ScalarText cs v
  | depth + 1, cs, v =>
      ScalarText cs v ∨
      (∃ items, v = .array items ∧ ArrayText (ValueText depth) cs items) ∨
      ∃ members, v = .object (Members.ofList members) ∧ ObjectText (ValueText depth) cs members

/-! ## Containers -/

section Containers

variable {α : Type} {item : List Char → Option (α × List Char)}

theorem scanItems_eq (fuel : Nat) (cs : List Char) :
    scanItems item fuel cs = scanSequence ']' item fuel cs := by
  induction fuel generalizing cs with
  | zero => rfl
  | succ fuel ih =>
      simp only [scanItems, scanSequence, ih]
      cases item cs with
      | none => rfl
      | some read =>
          cases next : skipBlanks read.2 with
          | nil => simp [next]
          | cons c tail =>
              by_cases comma : c = ','
              · simp [next, comma]
              · by_cases closed : c = ']' <;> simp [next, comma, closed]

theorem scanArray_eq (cs : List Char) : scanArray item cs = scanListing ']' item cs := by
  unfold scanArray scanListing
  split
  · rename_i closed
    simp [closed]
  · rename_i other
    rw [scanItems_eq, if_neg]
    intro closed
    obtain ⟨tail, next⟩ := List.head?_eq_some_iff.mp closed
    exact other tail next

section Members

variable {κ : Type} {name : List Char → Option (κ × List Char)}

/-- A name, a colon and an item. -/
def scanMember (name : List Char → Option (κ × List Char))
    (item : List Char → Option (α × List Char)) (cs : List Char) :
    Option ((κ × α) × List Char) := do
  let (key, cs) ← name cs
  let cs ← scanColon cs
  let (v, cs) ← item cs
  some ((key, v), cs)

theorem scanMembers_eq (fuel : Nat) (cs : List Char) :
    scanMembers name item fuel cs = scanSequence '}' (scanMember name item) fuel cs := by
  induction fuel generalizing cs with
  | zero => rfl
  | succ fuel ih =>
      simp only [scanMembers, scanSequence, scanMember, ih]
      cases name cs with
      | none => rfl
      | some named =>
          cases colon : scanColon named.2 with
          | none => simp [colon]
          | some after =>
              cases given : item after with
              | none => simp [colon, given]
              | some read =>
                  cases next : skipBlanks read.2 with
                  | nil => simp [colon, given, next]
                  | cons c tail =>
                      by_cases comma : c = ','
                      · simp [colon, given, next, comma]
                      · by_cases closed : c = '}' <;> simp [colon, given, next, comma, closed]

theorem scanObject_eq (cs : List Char) :
    scanObject name item cs = scanListing '}' (scanMember name item) cs := by
  unfold scanObject scanListing
  split
  · rename_i closed
    simp [closed]
  · rename_i other
    rw [scanMembers_eq, if_neg]
    intro closed
    obtain ⟨tail, next⟩ := List.head?_eq_some_iff.mp closed
    exact other tail next

end Members

end Containers

theorem scanName_sound {cs rest : List Char} {name : String}
    (scanned : scanName cs = some (name, rest)) :
    ∃ blanks text s, Blanks blanks ∧ StringText text s ∧ name = String.ofList s ∧
      cs = blanks ++ '"' :: (text ++ '"' :: rest) := by
  unfold scanName at scanned
  split at scanned
  · rename_i tail next
    obtain ⟨⟨s, after⟩, inner, same⟩ := Option.map_eq_some_iff.mp scanned
    cases same
    obtain ⟨text, rfl, spelled⟩ := scanString_sound inner
    obtain ⟨blanks, blank, split⟩ := skipBlanks_split cs
    exact ⟨blanks, text, s, blank, spelled, rfl, next ▸ split⟩
  · cases scanned

theorem scanName_append {text s : List Char} (spelled : StringText text s) (rest : List Char) :
    scanName ('"' :: (text ++ '"' :: rest)) = some (String.ofList s, rest) := by
  have solid : isBlank '"' = false := by decide
  simp [scanName, skipBlanks_cons solid, scanString_append spelled]

theorem scanColon_sound {cs rest : List Char} (scanned : scanColon cs = some rest) :
    ∃ blanks, Blanks blanks ∧ cs = blanks ++ ':' :: rest := by
  unfold scanColon at scanned
  split at scanned
  · rename_i tail next
    cases scanned
    obtain ⟨blanks, blank, split⟩ := skipBlanks_split cs
    exact ⟨blanks, blank, next ▸ split⟩
  · cases scanned

theorem scanColon_append {blanks : List Char} (blank : Blanks blanks) (rest : List Char) :
    scanColon (blanks ++ ':' :: rest) = some rest := by
  have solid : isBlank ':' = false := by decide
  simp [scanColon, skipBlanks_append blank, skipBlanks_cons solid]

theorem scanName_skip {blanks : List Char} (blank : Blanks blanks) (cs : List Char) :
    scanName (blanks ++ cs) = scanName cs := by
  simp only [scanName, skipBlanks_append blank]

theorem scans_member {item : List Char → Option (Value × List Char)}
    {spelled : List Char → Value → Prop} (scans : Scans item (Indented spelled)) :
    Scans (scanMember scanName item) (Indented (MemberText spelled)) where
  sound := by
    intro cs rest member scanned
    simp only [scanMember, bind, Option.bind_eq_some_iff] at scanned
    obtain ⟨⟨name, behindName⟩, named, behindColon, colon, ⟨v, after⟩, given, same⟩ := scanned
    cases same
    obtain ⟨blanks, text, s, blank, spelled, rfl, rfl⟩ := scanName_sound named
    obtain ⟨between, narrow, rfl⟩ := scanColon_sound colon
    obtain ⟨body, rfl, indented⟩ := scans.sound given
    exact ⟨_, by simp, blanks, _, blank, .named spelled narrow indented, rfl⟩
  complete := by
    rintro _ rest _ ⟨blanks, _, blank, ⟨spelled, narrow, indented⟩, rfl⟩ ended
    have given := scans.complete indented ended
    simp [scanMember, scanName_skip blank, scanName_append spelled, scanColon_append narrow, given]

theorem opens_member {spelled : List Char → Value → Prop} : Opens (MemberText spelled) := by
  rintro _ _ ⟨-, -, -⟩
  exact ⟨_, _, rfl, by decide⟩

/-! ## Values -/

theorem opensValue_of_number {c : Char} (h : c = '-' ∨ c.isDigit) :
    opensValue c ∧ c ≠ '[' ∧ c ≠ '{' := by
  rcases h with rfl | digit
  · decide
  · have ne : ∀ mark : Char, mark.isDigit = false → c ≠ mark := by
      rintro mark none rfl
      exact Bool.false_ne_true (none.symm.trans digit)
    have blank : isBlank c = false := by
      simp [isBlank, ne ' ' rfl, ne '\t' rfl, ne '\n' rfl, ne '\r' rfl]
    simp [opensValue, blank, ne ']' rfl, ne '}' rfl, ne '[' rfl, ne '{' rfl]

variable {cs text rest : List Char} {v : Value}

theorem ScalarText.eq_cons (spelled : ScalarText text v) :
    ∃ c cs, text = c :: cs ∧ opensValue c ∧ c ≠ '[' ∧ c ≠ '{' := by
  cases spelled with
  | null | true | false | string => exact ⟨_, _, rfl, by decide⟩
  | number spelled =>
      obtain ⟨c, cs, written, begins⟩ := spelled.eq_cons
      exact ⟨c, cs, written, opensValue_of_number begins⟩

theorem scanScalar_sound (scanned : scanScalar cs = some (v, rest)) :
    ∃ text, cs = text ++ rest ∧ ScalarText text v := by
  unfold scanScalar at scanned
  split at scanned
  · cases scanned
    exact ⟨_, rfl, .null⟩
  · cases scanned
    exact ⟨_, rfl, .true⟩
  · cases scanned
    exact ⟨_, rfl, .false⟩
  · obtain ⟨⟨s, after⟩, inner, same⟩ := Option.map_eq_some_iff.mp scanned
    cases same
    obtain ⟨text, rfl, spelled⟩ := scanString_sound inner
    exact ⟨_, by simp, .string spelled⟩
  · split at scanned
    · cases scanned
    · rename_i n after numeral
      obtain ⟨w, denoted, same⟩ := Option.map_eq_some_iff.mp scanned
      cases same
      obtain ⟨text, rfl, spelled⟩ := scanNumeral_sound numeral
      exact ⟨text, rfl, .number spelled denoted⟩

theorem scanScalar_append (spelled : ScalarText text v) (ended : EndsNumber rest) :
    scanScalar (text ++ rest) = some (v, rest) := by
  cases spelled with
  | null | true | false => rfl
  | string spelled => simp [scanScalar, scanString_append spelled]
  | number spelled denoted =>
      have scanned := scanNumeral_append spelled ended
      obtain ⟨c, cs, rfl, begins⟩ := spelled.eq_cons
      have ne : c ≠ 'n' ∧ c ≠ 't' ∧ c ≠ 'f' ∧ c ≠ '"' := by
        rcases begins with rfl | digit
        · decide
        · refine ⟨?_, ?_, ?_, ?_⟩ <;> (rintro rfl; cases digit)
      unfold scanScalar
      split
      case h_5 =>
          rw [scanned]
          simp [denoted]
      all_goals simp_all

theorem opens_value (depth : Nat) : Opens (ValueText depth) := by
  intro text v spelled
  cases depth with
  | zero =>
      obtain ⟨c, cs, written, opening, -⟩ := ScalarText.eq_cons spelled
      exact ⟨c, cs, written, opening⟩
  | succ depth =>
      rcases spelled with scalar | ⟨-, -, -, -, rfl⟩ | ⟨-, -, -, -, rfl⟩
      · obtain ⟨c, cs, written, opening, -⟩ := scalar.eq_cons
        exact ⟨c, cs, written, opening⟩
      · exact ⟨_, _, rfl, by decide⟩
      · exact ⟨_, _, rfl, by decide⟩

theorem scanValue_scalar (depth : Nat) (spelled : ScalarText text v) (ended : EndsNumber rest) :
    scanValue depth (text ++ rest) = some (v, rest) := by
  have scanned := scanScalar_append spelled ended
  obtain ⟨c, cs, rfl, opening, inner⟩ := spelled.eq_cons
  have solid : isBlank c = false := by
    simp only [opensValue, Bool.and_eq_true, Bool.not_eq_true'] at opening
    exact opening.1.1
  rw [List.cons_append] at scanned ⊢
  cases depth <;> simp [scanValue, skipBlanks_cons solid, inner, scanned]

theorem scanValue_skip {blanks : List Char} (depth : Nat) (blank : Blanks blanks)
    (cs : List Char) : scanValue depth (blanks ++ cs) = scanValue depth cs := by
  cases depth <;> simp only [scanValue, skipBlanks_append blank]

theorem scans_value (depth : Nat) : Scans (scanValue depth) (Indented (ValueText depth)) := by
  induction depth with
  | zero =>
      constructor
      · intro cs rest v scanned
        obtain ⟨blanks, blank, split⟩ := skipBlanks_split cs
        unfold scanValue at scanned
        split at scanned
        · cases scanned
        · cases scanned
        · obtain ⟨text, written, spelled⟩ := scanScalar_sound scanned
          exact ⟨blanks ++ text, by rw [split, written, List.append_assoc],
            blanks, text, blank, spelled, rfl⟩
      · rintro _ rest v ⟨blanks, text, blank, spelled, rfl⟩ ended
        rw [List.append_assoc, scanValue_skip 0 blank]
        exact scanValue_scalar 0 spelled ended
  | succ depth ih =>
      constructor
      · intro cs rest v scanned
        obtain ⟨blanks, blank, split⟩ := skipBlanks_split cs
        suffices ∃ text, skipBlanks cs = text ++ rest ∧ ValueText (depth + 1) text v by
          obtain ⟨text, written, spelled⟩ := this
          exact ⟨blanks ++ text, by rw [split, written, List.append_assoc],
            blanks, text, blank, spelled, rfl⟩
        unfold scanValue at scanned
        split at scanned
        · rename_i tail next
          obtain ⟨⟨items, after⟩, inner, same⟩ := Option.map_eq_some_iff.mp scanned
          cases same
          rw [scanArray_eq] at inner
          obtain ⟨text, rfl, listing⟩ := scanListing_sound ih inner
          exact ⟨_, by simp [next], .inr (.inl ⟨items, rfl, text, listing, rfl⟩)⟩
        · rename_i tail next
          obtain ⟨⟨members, after⟩, inner, same⟩ := Option.map_eq_some_iff.mp scanned
          cases same
          rw [scanObject_eq] at inner
          obtain ⟨text, rfl, listing⟩ := scanListing_sound (scans_member ih) inner
          exact ⟨_, by simp [next], .inr (.inr ⟨members, rfl, text, listing, rfl⟩)⟩
        · obtain ⟨text, written, spelled⟩ := scanScalar_sound scanned
          exact ⟨text, written, .inl spelled⟩
      · rintro _ rest v ⟨blanks, text, blank, spelled, rfl⟩ ended
        rw [List.append_assoc, scanValue_skip _ blank]
        rcases spelled with scalar | ⟨items, rfl, inner, listing, rfl⟩ |
          ⟨members, rfl, inner, listing, rfl⟩
        · exact scanValue_scalar _ scalar ended
        · have solid : isBlank '[' = false := by decide
          have scanned :
              scanArray (scanValue depth) (inner ++ ']' :: rest) = some (items, rest) := by
            rw [scanArray_eq]
            exact scanListing_append ih (opens_value depth) (.inl rfl) listing
          simp [scanValue, skipBlanks_cons solid, scanned]
        · have solid : isBlank '{' = false := by decide
          have scanned : scanObject scanName (scanValue depth) (inner ++ '}' :: rest) =
              some (members, rest) := by
            rw [scanObject_eq]
            exact scanListing_append (scans_member ih) opens_member (.inr rfl) listing
          simp [scanValue, skipBlanks_cons solid, scanned]

/-- A value is a container, which takes a level of depth, or a single token. -/
theorem scanValue_eq_some_iff {depth : Nat} :
    scanValue depth cs = some (v, rest) ↔
      (∃ inner tail items, depth = inner + 1 ∧ skipBlanks cs = '[' :: tail ∧
        scanListing ']' (scanValue inner) tail = some (items, rest) ∧ v = .array items) ∨
      (∃ inner tail members, depth = inner + 1 ∧ skipBlanks cs = '{' :: tail ∧
        scanListing '}' (scanMember scanName (scanValue inner)) tail = some (members, rest) ∧
        v = .object (Members.ofList members)) ∨
      (∀ tail, skipBlanks cs ≠ '[' :: tail) ∧ (∀ tail, skipBlanks cs ≠ '{' :: tail) ∧
        scanScalar (skipBlanks cs) = some (v, rest) := by
  cases depth with
  | zero =>
      unfold scanValue
      split
      · simp_all
      · simp_all
      · simp_all
  | succ depth =>
      unfold scanValue
      split
      · rename_i tail next
        simp only [next, scanArray_eq, Option.map_eq_some_iff, Prod.exists, Prod.mk.injEq]
        grind
      · rename_i tail next
        simp only [next, scanObject_eq, Option.map_eq_some_iff, Prod.exists, Prod.mk.injEq]
        grind
      · simp_all

theorem parseWithin_eq_some {depth : Nat} {text : String} :
    parseWithin depth text = some v ↔
      ∃ rest, scanValue depth text.toList = some (v, rest) ∧ skipBlanks rest = [] := by
  unfold parseWithin
  split
  · rename_i refused
    simp [refused]
  · rename_i w rest scanned
    simp only [scanned, List.isEmpty_iff, Option.some.injEq, Prod.mk.injEq]
    grind

theorem parseWithin_eq_some_iff {depth : Nat} {text : String} {v : Value} :
    parseWithin depth text = some v ↔ Spaced (ValueText depth) text.toList v := by
  rw [parseWithin_eq_some]
  constructor
  · rintro ⟨rest, scanned, blank⟩
    obtain ⟨body, written, indented⟩ := (scans_value depth).sound scanned
    exact ⟨body, rest, indented, blanks_of_skipBlanks blank, written⟩
  · rintro ⟨body, blanks, indented, blank, written⟩
    have ended : EndsNumber blanks := by
      simpa using EndsNumber.append_blanks blank endsNumber_nil
    rw [written]
    exact ⟨blanks, (scans_value depth).complete indented ended, blank.skipBlanks_eq_nil⟩

end DuplexRpc.Json
