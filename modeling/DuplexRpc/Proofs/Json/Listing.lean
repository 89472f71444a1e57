import DuplexRpc.Proofs.Json.Literal

/-!
# Listings

Containers list their items between two marks, with commas in between and blanks around everything.
The items of an array and the members of an object differ in what an item is and in the mark that
closes the listing; the rest is said here for both.
-/

namespace DuplexRpc.Json

/-! ## Blanks -/

def Blanks (cs : List Char) : Prop := ∀ c ∈ cs, isBlank c

section Blanks

variable {cs rest blanks : List Char} {c : Char}

theorem skipBlanks_split (cs : List Char) :
    ∃ blanks, Blanks blanks ∧ cs = blanks ++ skipBlanks cs :=
  ⟨cs.takeWhile isBlank, List.all_eq_true.mp List.all_takeWhile,
    List.takeWhile_append_dropWhile.symm⟩

theorem skipBlanks_append (blank : Blanks blanks) (cs : List Char) :
    skipBlanks (blanks ++ cs) = skipBlanks cs :=
  List.dropWhile_append_of_pos blank

theorem skipBlanks_cons (solid : isBlank c = false) : skipBlanks (c :: cs) = c :: cs := by
  simp [skipBlanks, solid]

theorem Blanks.skipBlanks_eq_nil (blank : Blanks blanks) : skipBlanks blanks = [] := by
  simpa [skipBlanks] using skipBlanks_append blank []

theorem blanks_of_skipBlanks (none : skipBlanks cs = []) : Blanks cs := by
  obtain ⟨blanks, blank, split⟩ := skipBlanks_split cs
  rw [none, List.append_nil] at split
  exact split ▸ blank

theorem not_continuesNumber_of_blank (blank : isBlank c) : continuesNumber c = false := by
  simp only [isBlank, Bool.or_eq_true, decide_eq_true_eq] at blank
  rcases blank with ((rfl | rfl) | rfl) | rfl <;> decide

theorem EndsNumber.append_blanks (blank : Blanks blanks) (ended : EndsNumber rest) :
    EndsNumber (blanks ++ rest) := by
  cases blanks with
  | nil => exact ended
  | cons c blanks =>
      exact endsNumber_cons.mpr (not_continuesNumber_of_blank (blank c List.mem_cons_self))

end Blanks

/-! ## Items between two marks -/

section Listings

variable {α : Type}

/-- Blanks, and then a text of the item. -/
def Indented (item : List Char → α → Prop) (cs : List Char) (v : α) : Prop :=
  ∃ blanks text, Blanks blanks ∧ item text v ∧ cs = blanks ++ text

/-- A text of the item between blanks. -/
def Spaced (item : List Char → α → Prop) (cs : List Char) (v : α) : Prop :=
  ∃ text blanks, Indented item text v ∧ Blanks blanks ∧ cs = text ++ blanks

inductive Sequence (item : List Char → α → Prop) : List Char → List α → Prop where
  | last {cs : List Char} {v : α} (spelled : Spaced item cs v) : Sequence item cs [v]
  | more {cs rest : List Char} {v : α} {vs : List α} (spelled : Spaced item cs v)
      (later : Sequence item rest vs) : Sequence item (cs ++ ',' :: rest) (v :: vs)

/-- What stands between the two marks of a container. -/
inductive Listing (item : List Char → α → Prop) : List Char → List α → Prop where
  | none {cs : List Char} (blank : Blanks cs) : Listing item cs []
  | some {cs : List Char} {vs : List α} (items : Sequence item cs vs) : Listing item cs vs

/-- The scanner takes the texts of the grammar and nothing else. -/
structure Scans (scan : List Char → Option (α × List Char)) (spelled : List Char → α → Prop) :
    Prop where
  sound : ∀ {cs rest : List Char} {v : α}, scan cs = some (v, rest) →
    ∃ text, cs = text ++ rest ∧ spelled text v
  complete : ∀ {text rest : List Char} {v : α}, spelled text v → EndsNumber rest →
    scan (text ++ rest) = some (v, rest)

/-- No text of a value begins with a blank, or with the mark that closes a container. -/
def opensValue (c : Char) : Bool := !isBlank c && c != ']' && c != '}'

def Opens (spelled : List Char → α → Prop) : Prop :=
  ∀ {text : List Char} {v : α}, spelled text v → ∃ c cs, text = c :: cs ∧ opensValue c

/-- Items up to the closing mark. `fuel` bounds their number. -/
def scanSequence (close : Char) (item : List Char → Option (α × List Char)) :
    Nat → List Char → Option (List α × List Char)
  | 0, _ => none
  | fuel + 1, cs =>
      match item cs with
      | none => none
      | some (v, cs) =>
          match skipBlanks cs with
          | [] => none
          | c :: cs =>
              if c = ',' then
                (scanSequence close item fuel cs).map fun (vs, cs) => (v :: vs, cs)
              else if c = close then some ([v], cs)
              else none

def scanListing (close : Char) (item : List Char → Option (α × List Char)) (cs : List Char) :
    Option (List α × List Char) :=
  if (skipBlanks cs).head? = some close then some ([], (skipBlanks cs).tail)
  else scanSequence close item cs.length cs

variable {item : List Char → Option (α × List Char)} {spelled : List Char → α → Prop}
  {close : Char} {cs text rest : List Char} {vs : List α}

theorem scanSequence_sound {fuel : Nat} (scans : Scans item (Indented spelled))
    (scanned : scanSequence close item fuel cs = some (vs, rest)) :
    ∃ text, cs = text ++ close :: rest ∧ Sequence spelled text vs := by
  induction fuel generalizing cs vs with
  | zero => cases scanned
  | succ fuel ih =>
      unfold scanSequence at scanned
      split at scanned
      · cases scanned
      · rename_i v after first
        obtain ⟨text, rfl, indented⟩ := scans.sound first
        obtain ⟨blanks, blank, split⟩ := skipBlanks_split after
        split at scanned
        · cases scanned
        · rename_i c tail next
          rw [next] at split
          have spaced : Spaced spelled (text ++ blanks) v := ⟨text, blanks, indented, blank, rfl⟩
          split at scanned
          · rename_i comma
            obtain ⟨⟨vs, after⟩, later, same⟩ := Option.map_eq_some_iff.mp scanned
            cases same
            obtain ⟨more, rfl, sequence⟩ := ih later
            exact ⟨_, by simp [split, comma], .more spaced sequence⟩
          · split at scanned
            · rename_i closed
              cases scanned
              exact ⟨_, by simp [split, closed], .last spaced⟩
            · cases scanned

theorem scanSequence_append {fuel : Nat} (scans : Scans item (Indented spelled))
    (mark : close = ']' ∨ close = '}') (enough : vs.length ≤ fuel)
    (items : Sequence spelled text vs) (rest : List Char) :
    scanSequence close item fuel (text ++ close :: rest) = some (vs, rest) := by
  have ends {blanks : List Char} {c : Char} (blank : Blanks blanks)
      (stops : continuesNumber c = false) (tail : List Char) : EndsNumber (blanks ++ c :: tail) :=
    .append_blanks blank (endsNumber_cons.mpr stops)
  induction items generalizing fuel with
  | last spaced =>
      obtain ⟨fuel, rfl⟩ := Nat.exists_eq_add_one_of_ne_zero (Nat.ne_of_gt enough)
      obtain ⟨text, blanks, indented, blank, rfl⟩ := spaced
      have stops : continuesNumber close = false ∧ isBlank close = false ∧ close ≠ ',' := by
        rcases mark with rfl | rfl <;> decide
      have first := scans.complete indented (ends blank stops.1 rest)
      simp [scanSequence, List.append_assoc, first, skipBlanks_append blank,
        skipBlanks_cons stops.2.1, stops.2.2]
  | more spaced later ih =>
      obtain ⟨fuel, rfl⟩ := Nat.exists_eq_add_one_of_ne_zero (Nat.ne_of_gt (Nat.lt_of_lt_of_le
        (Nat.succ_pos _) enough))
      obtain ⟨text, blanks, indented, blank, rfl⟩ := spaced
      rename_i more _ _
      have comma : continuesNumber ',' = false ∧ isBlank ',' = false := by decide
      have first := scans.complete indented (ends blank comma.1 (more ++ close :: rest))
      have tail := ih (Nat.le_of_succ_le_succ enough)
      simp [scanSequence, List.append_assoc, first, skipBlanks_append blank,
        skipBlanks_cons comma.2, tail]

theorem Sequence.length_le (items : Sequence spelled text vs) : vs.length ≤ text.length + 1 := by
  induction items with
  | last => simp
  | more _ _ ih =>
      simp only [List.length_cons, List.length_append]
      omega

theorem Sequence.opens (opens : Opens spelled) (items : Sequence spelled text vs) :
    ∃ blanks c cs, Blanks blanks ∧ opensValue c ∧ text = blanks ++ c :: cs := by
  cases items with
  | last spaced | more spaced =>
      obtain ⟨_, _, ⟨blanks, body, blank, given, rfl⟩, -, rfl⟩ := spaced
      obtain ⟨c, cs, rfl, opening⟩ := opens given
      exact ⟨blanks, c, _, blank, opening, by simp; rfl⟩

theorem scanListing_sound (scans : Scans item (Indented spelled))
    (scanned : scanListing close item cs = some (vs, rest)) :
    ∃ text, cs = text ++ close :: rest ∧ Listing spelled text vs := by
  unfold scanListing at scanned
  split at scanned
  · rename_i closed
    cases scanned
    obtain ⟨tail, next⟩ := List.head?_eq_some_iff.mp closed
    obtain ⟨blanks, blank, split⟩ := skipBlanks_split cs
    refine ⟨blanks, ?_, .none blank⟩
    rw [next] at split
    rw [next, List.tail_cons, split]
  · obtain ⟨text, split, items⟩ := scanSequence_sound scans scanned
    exact ⟨text, split, .some items⟩

theorem scanListing_append (scans : Scans item (Indented spelled)) (opens : Opens spelled)
    (mark : close = ']' ∨ close = '}') (listing : Listing spelled text vs) :
    scanListing close item (text ++ close :: rest) = some (vs, rest) := by
  cases listing with
  | none blank =>
      have solid : isBlank close = false := by
        rcases mark with rfl | rfl <;> decide
      simp [scanListing, skipBlanks_append blank, skipBlanks_cons solid]
  | some items =>
      have enough : vs.length ≤ (text ++ close :: rest).length := by
        have few := items.length_le
        simp only [List.length_append, List.length_cons]
        omega
      have scanned := scanSequence_append scans mark enough items rest
      obtain ⟨blanks, c, cs, blank, opening, rfl⟩ := items.opens opens
      simp only [opensValue, Bool.and_eq_true, Bool.not_eq_true', bne_iff_ne] at opening
      have other : c ≠ close := by
        rcases mark with rfl | rfl
        · exact opening.1.2
        · exact opening.2
      have next : skipBlanks (blanks ++ c :: cs ++ close :: rest) = c :: (cs ++ close :: rest) := by
        rw [List.append_assoc, skipBlanks_append blank, List.cons_append,
          skipBlanks_cons opening.1.1]
      rw [scanListing, if_neg (by rw [next]; simpa using other), scanned]

end Listings

end DuplexRpc.Json
