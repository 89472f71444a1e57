import Mathlib.Data.List.Pairwise
import Mathlib.Data.List.Perm.Basic
import DuplexRpc.Proofs.Json.Routes

/-!
# Reading back typed values

A record is written as an object with its members in the order of its fields.  It is read back on
both routes: from the text, which has the members in that order, and from the value, which has them
in the order of their names.  The order makes no difference, since every field fills its own part of
the record.
-/

namespace DuplexRpc.Json

variable {σ α β : Type} {v : Value}

/-! ## Readers and fields -/

/-- The reader takes the typed value back from the value that it was written as. -/
structure Reader.TakesBack (r : Reader α) (v : Value) (a : α) : Prop where
  text : ∀ {d : Nat} {rest : List Char}, v.depth ≤ d → EndsNumber rest →
    r.ofChars d (v.render ++ rest) = .ok (a, rest)
  value : r.ofValue v.normal = .ok a

theorem Reader.Faithful.takesBack {r : Reader α} {a : α} (faithful : r.Faithful) (exact : v.Exact)
    (read : r.ofValue v.normal = .ok a) : r.TakesBack v a where
  text := by
    intro d rest depth ended
    have spelled : Indented (ValueText d) v.render v.normal :=
      ⟨[], _, by simp [Blanks], valueText_render exact depth, rfl⟩
    exact faithful.ofChars_iff.mpr ⟨_, (scans_value d).complete spelled ended, read⟩
  value := read

theorem Reader.TakesBack.readsBack {r : Reader α} {a : α} (takes : r.TakesBack v a)
    (exact : v.Exact) (depth : v.depth ≤ maxDepth) : r.ReadsBack v.text a := by
  refine ⟨?_, v.normal, parse_text exact depth, takes.value⟩
  have read := takes.text depth endsNumber_nil
  rw [List.append_nil] at read
  simp [Reader.ofText, Value.text, read, skipBlanks, bind, Except.bind]

theorem Reader.takesBack_optional_value (exact : v.Exact) (ordered : v.Ordered) :
    Reader.value.optional.TakesBack v v.nonNull? :=
  Reader.faithful_value.optional.takesBack exact
    ((optional_value v.normal).trans (by rw [ordered.normal_eq]))

theorem Reader.TakesBack.optional {r : Reader α} {members : Members} {a : α}
    (takes : r.TakesBack (.object members) a) :
    r.optional.TakesBack (.object members) (some a) where
  text := by
    intro d rest depth ended
    have begins : skipBlanks ((Value.object members).render ++ rest) =
        (Value.object members).render ++ rest := skipBlanks_cons (by decide)
    have other : ∀ tail, skipBlanks ((Value.object members).render ++ rest) ≠ 'n' :: tail := by
      rw [begins]
      intro tail same
      cases same
    rw [optional_ofChars_of_ne other, begins, takes.text depth ended]
    rfl
  value := optional_ofValue_iff.mpr (.inr ⟨nofun, a, takes.value, rfl⟩)

/-- The field fills its part of the draft with what the value was written for. -/
structure Field.TakesBack (field : Field σ) (v : Value) (draft filled : σ) : Prop where
  text : ∀ {d : Nat} {rest : List Char}, v.depth ≤ d → EndsNumber rest →
    field.ofChars d (v.render ++ rest) draft = .ok (filled, rest)
  value : field.ofValue v.normal draft = .ok filled

theorem Reader.TakesBack.field {name : String} {required : Bool} {r : Reader α}
    {get : σ → Option α} {set : α → σ → σ} {a : α} (takes : r.TakesBack v a) (draft : σ) :
    (Field.of name required r get set).TakesBack v draft (set a draft) where
  text := by
    intro d rest depth ended
    simp [Field.of, takes.text depth ended, bind, Except.bind]
  value := Field.of_ofValue draft takes.value

/-! ## The order of the members -/

/-- What both fields fill in is the same in either order. -/
def Field.Commutes (f g : Field σ) : Prop :=
  ∀ ⦃v w : Value⦄ ⦃draft next last : σ⦄, f.ofValue v draft = .ok next →
    g.ofValue w next = .ok last →
    ∃ other, g.ofValue w draft = .ok other ∧ f.ofValue v other = .ok last

theorem Field.commutes_of {name other : String} {first second : Bool} {r : Reader α} {s : Reader β}
    {get : σ → Option α} {look : σ → Option β} {set : α → σ → σ} {put : β → σ → σ}
    (apart : ∀ a b draft, put b (set a draft) = set a (put b draft)) :
    (Field.of name first r get set).Commutes (Field.of other second s look put) := by
  intro v w draft next last took later
  obtain ⟨a, read, rfl⟩ := Field.of_ofValue_eq_ok_iff.mp took
  obtain ⟨b, given, rfl⟩ := Field.of_ofValue_eq_ok_iff.mp later
  exact ⟨put b draft, Field.of_ofValue draft given, (Field.of_ofValue _ read).trans (by rw [apart])⟩

structure Field.Independent (f g : Field σ) : Prop where
  left : f.Commutes g
  right : g.Commutes f

theorem Field.independent_of {name other : String} {first second : Bool} {r : Reader α}
    {s : Reader β} {get : σ → Option α} {look : σ → Option β} {set : α → σ → σ} {put : β → σ → σ}
    (apart : ∀ a b draft, put b (set a draft) = set a (put b draft)) :
    (Field.of name first r get set).Independent (Field.of other second s look put) :=
  ⟨commutes_of apart, commutes_of fun b a draft => (apart a b draft).symm⟩

namespace Members

variable {name : String} {members : Members}

theorem insert_perm (fresh : name ∉ names members) :
    (members.insert name v).Perm ((name, v) :: members) := by
  induction members with
  | nil => exact .refl _
  | cons entry members ih =>
      obtain ⟨other, w⟩ := entry
      obtain ⟨apart, fresh⟩ : name ≠ other ∧ name ∉ names members := by
        simpa [names] using fresh
      rw [insert, if_neg apart]
      split
      · exact .refl _
      · exact ((ih fresh).cons _).trans (.swap _ _ _)

theorem ofList_perm (distinct : (names members).Nodup) : (ofList members).Perm members := by
  induction members using List.reverseRecOn with
  | nil => exact .refl _
  | append_singleton members entry ih =>
      obtain ⟨name, v⟩ := entry
      rw [names, List.map_append, List.nodup_append] at distinct
      have earlier := ih distinct.1
      have fresh : name ∉ names (ofList members) := by
        intro known
        have known := (earlier.map _).mem_iff.mp known
        exact distinct.2.2 name known name (by simp) rfl
      rw [ofList_concat]
      exact (insert_perm fresh).trans ((earlier.cons _).trans (List.perm_append_singleton _ _).symm)

end Members

namespace Record

variable {r : Record σ α} {name : String} {draft filled : σ} {members others : Members}

/-- Different fields fill different parts. -/
def Apart (r : Record σ α) : Prop :=
  ∀ f ∈ r.fields, ∀ g ∈ r.fields, f.name ≠ g.name → f.Commutes g

theorem Apart.of_pairwise (independent : r.fields.Pairwise Field.Independent) : r.Apart := by
  intro f listed g listed' different
  have symmetric : Std.Symm (Field.Independent (σ := σ)) := ⟨fun _ _ h => ⟨h.right, h.left⟩⟩
  exact (independent.forall listed listed' fun same => different (congrArg _ same)).left

theorem Apart.take_comm (apart : r.Apart) {first second : String × Value} {next : σ}
    (distinct : first.1 ≠ second.1) (took : r.take draft first = .ok next)
    (later : r.take next second = .ok filled) :
    ∃ other, r.take draft second = .ok other ∧ r.take other first = .ok filled := by
  cases known : r.field? first.1 with
  | none =>
      simp only [take, known] at took ⊢
      obtain rfl := Except.ok.inj took
      exact ⟨filled, later, rfl⟩
  | some f =>
      cases known' : r.field? second.1 with
      | none =>
          simp only [take, known, known'] at took later ⊢
          obtain rfl := Except.ok.inj later
          exact ⟨draft, rfl, took⟩
      | some g =>
          simp only [take, known, known'] at took later ⊢
          have named {field : Field σ} {name : String} (found : r.field? name = some field) :
              field ∈ r.fields ∧ field.name = name :=
            ⟨List.mem_of_find?_eq_some found, by simpa using List.find?_some found⟩
          obtain ⟨listed, own⟩ := named known
          obtain ⟨listed', own'⟩ := named known'
          exact apart f listed g listed' (by rwa [own, own']) took later

theorem Apart.fillMembers_perm (apart : r.Apart) (same : members.Perm others)
    (distinct : (Members.names members).Nodup) (fills : r.fillMembers draft members = .ok filled) :
    r.fillMembers draft others = .ok filled := by
  induction same generalizing draft with
  | nil => exact fills
  | cons entry _ ih =>
      obtain ⟨-, distinct⟩ := List.nodup_cons.mp distinct
      rw [fillMembers_cons, bind_eq_ok_iff] at fills ⊢
      obtain ⟨next, took, later⟩ := fills
      exact ⟨next, took, ih distinct later⟩
  | swap first second members =>
      simp only [fillMembers_cons, bind_eq_ok_iff] at fills ⊢
      obtain ⟨next, took, last, later, rest⟩ := fills
      have different : second.1 ≠ first.1 := by
        have fresh := (List.nodup_cons.mp distinct).1
        intro same
        exact fresh (by simp [same])
      obtain ⟨other, took, later⟩ := apart.take_comm different took later
      exact ⟨other, took, last, later, rest⟩
  | trans one _ ih ih' =>
      exact ih' ((one.map _).nodup_iff.mp distinct) (ih distinct fills)

/-! ## Records -/

/-- The members fill the draft one after another, each its own part, on both routes. -/
inductive Fills (r : Record σ α) : σ → Members → σ → Prop where
  | nil {draft : σ} : Fills r draft [] draft
  | cons {name : String} {v : Value} {field : Field σ} {draft next filled : σ} {members : Members}
      (known : r.field? name = some field) (unset : field.isSet draft = false)
      (takes : field.TakesBack v draft next) (later : Fills r next members filled) :
      Fills r draft ((name, v) :: members) filled

theorem Fills.append {next : σ} (first : r.Fills draft members next)
    (later : r.Fills next others filled) : r.Fills draft (members ++ others) filled := by
  induction first with
  | nil => exact later
  | cons known unset takes _ ih => exact .cons known unset takes (ih later)

theorem Fills.fillMembers (fills : r.Fills draft members filled) :
    r.fillMembers draft (normalMembers members) = .ok filled := by
  induction fills with
  | nil => rfl
  | cons known unset takes _ ih => rw [normalMembers, fillMembers_known known takes.value, ih]

theorem membersOfChars_step {field : Field σ} {c : Char} {d : Nat} {next : σ} (fuel : Nat)
    (known : r.field? name = some field) (unset : field.isSet draft = false)
    (takes : field.TakesBack v draft next) (depth : v.depth ≤ d) (mark : c = ',' ∨ c = '}')
    (rest : List Char) :
    r.membersOfChars d (fuel + 1) (renderString name ++ ':' :: (v.render ++ c :: rest)) draft =
      if c = ',' then r.membersOfChars d fuel rest next else .ok (next, rest) := by
  have ended : EndsNumber (c :: rest) := by
    rw [endsNumber_cons]
    rcases mark with rfl | rfl <;> rfl
  have solid : isBlank c = false := by
    rcases mark with rfl | rfl <;> rfl
  have named : scanName (renderString name ++ ':' :: (v.render ++ c :: rest)) =
      some (name, ':' :: (v.render ++ c :: rest)) := by
    have scanned := scanName_append (stringText_flatMap name.toList)
      (':' :: (v.render ++ c :: rest))
    simpa [renderString] using scanned
  have colon : scanColon (':' :: (v.render ++ c :: rest)) = some (v.render ++ c :: rest) :=
    scanColon_append (show Blanks [] from List.forall_mem_nil _) _
  have taken : r.memberOfChars d name (':' :: (v.render ++ c :: rest)) draft =
      .ok (next, c :: rest) := by
    simp [memberOfChars, known, unset, colon, wellFormed, takes.text depth ended, bind, Except.bind]
  simp only [membersOfChars, named, wellFormed, taken, bind, Except.bind, skipBlanks_cons solid]
  rcases mark with rfl | rfl <;> rfl

theorem Fills.membersOfChars {d fuel : Nat} (fills : r.Fills draft members filled)
    (nonempty : members ≠ []) (depth : membersDepth members ≤ d) (enough : members.length ≤ fuel)
    (rest : List Char) :
    r.membersOfChars d fuel (renderMembers members ++ '}' :: rest) draft = .ok (filled, rest) := by
  induction fills generalizing fuel with
  | nil => exact absurd rfl nonempty
  | @cons name v field draft next filled members known unset takes later ih =>
      obtain ⟨fuel, rfl⟩ := Nat.exists_eq_add_one_of_ne_zero (Nat.ne_of_gt (Nat.lt_of_lt_of_le
        (Nat.succ_pos _) enough))
      rw [membersDepth] at depth
      have inner : v.depth ≤ d := by omega
      cases members with
      | nil =>
          cases later
          have step := membersOfChars_step fuel known unset takes inner (.inr rfl) rest
          simpa [renderMembers] using step
      | cons entry members =>
          have step := membersOfChars_step fuel known unset takes inner (.inl rfl)
            (renderMembers (entry :: members) ++ '}' :: rest)
          have more := ih (by simp) (by omega) (Nat.le_of_succ_le_succ enough)
          rw [if_pos rfl, more] at step
          simpa [renderMembers] using step

theorem renderMembers_cons (entry : String × Value) (members : Members) :
    ∃ tail, renderMembers (entry :: members) = '"' :: tail ∧
      (entry :: members).length ≤ (renderMembers (entry :: members)).length := by
  induction members generalizing entry with
  | nil => exact ⟨_, rfl, by simp [renderMembers, renderString]⟩
  | cons next members ih =>
      obtain ⟨tail, -, enough⟩ := ih next
      refine ⟨_, rfl, ?_⟩
      simp only [renderMembers, List.length_append, List.length_cons] at enough ⊢
      omega

theorem ofChars_members {d : Nat} {cs tail rest : List Char} {a : α}
    (next : skipBlanks cs = '"' :: tail)
    (fills : r.membersOfChars d cs.length cs r.empty = .ok (filled, rest))
    (built : r.build filled = .ok a) : r.ofChars (d + 1) ('{' :: cs) = .ok (a, rest) := by
  have solid : isBlank '{' = false := by decide
  simp [ofChars, skipBlanks_cons solid, next, fills, built, fitting, bind, Except.bind]

/-- What was filled in member by member is read back on both routes. -/
theorem Fills.takesBack {a : α} (fills : r.Fills r.empty members filled) (apart : r.Apart)
    (distinct : (Members.names members).Nodup) (nonempty : members ≠ [])
    (built : r.build filled = .ok a) : r.reader.TakesBack (.object members) a where
  text := by
    intro d rest depth ended
    obtain ⟨d, rfl⟩ := Nat.exists_eq_add_one_of_ne_zero (Nat.ne_of_gt (Nat.lt_of_lt_of_le
      (Nat.succ_pos _) depth))
    obtain ⟨entry, members, rfl⟩ := List.exists_cons_of_ne_nil nonempty
    obtain ⟨tail, begins, enough⟩ := renderMembers_cons entry members
    have long : (entry :: members).length ≤
        (renderMembers (entry :: members) ++ '}' :: rest).length := by
      rw [List.length_append]
      omega
    have read := fills.membersOfChars nonempty (Nat.le_of_succ_le_succ depth) long rest
    have next : skipBlanks (renderMembers (entry :: members) ++ '}' :: rest) =
        '"' :: (tail ++ '}' :: rest) := by
      rw [begins]
      exact skipBlanks_cons (by decide)
    simpa [reader, Value.render] using ofChars_members next read built
  value := by
    have distinct : (Members.names (normalMembers members)).Nodup := by simpa using distinct
    have sorted := apart.fillMembers_perm (Members.ofList_perm distinct).symm distinct
      fills.fillMembers
    exact (Record.ofValue_object sorted).trans built

end Record

end DuplexRpc.Json
