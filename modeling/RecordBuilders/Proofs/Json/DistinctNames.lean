import Mathlib.Data.List.Nodup
import RecordBuilders.Json.Reader
import RecordBuilders.Proofs.Success

/-! Objects that were read have distinct member names, at every depth. A text may give one name
several values, but the reader keeps one of them. -/
namespace RecordBuilders.Json

/-- No object has two members of one name. -/
inductive NamesDistinct : Json → Prop where
  | null : NamesDistinct .null
  | bool (value : Bool) : NamesDistinct (.bool value)
  | integer (value : Int) : NamesDistinct (.integer value)
  | decimal (value : Decimal) : NamesDistinct (.decimal value)
  | nonFinite (value : NonFinite) : NamesDistinct (.nonFinite value)
  | string (value : String) : NamesDistinct (.string value)
  | array {items : List Json} (all : ∀ v ∈ items, NamesDistinct v) : NamesDistinct (.array items)
  | object {members : List (String × Json)} (names : (members.map Prod.fst).Nodup)
      (values : ∀ m ∈ members, NamesDistinct m.2) : NamesDistinct (.object members)

theorem NamesDistinct.nodup {members : List (String × Json)} (h : NamesDistinct (.object members)) :
    (members.map Prod.fst).Nodup := by
  cases h with
  | object names _ => exact names

section Members
variable {name : String} {value : Json} {members pairs : List (String × Json)}

theorem mem_setMember {m : String × Json} (h : m ∈ setMember name value members) :
    m = (name, value) ∨ m ∈ members := by
  induction members with
  | nil => simpa [setMember] using h
  | cons first rest ih =>
    obtain ⟨key, old⟩ := first
    by_cases hk : key = name
    · subst hk
      simp only [setMember, ↓reduceIte, List.mem_cons] at h ⊢
      exact h.imp id Or.inr
    · simp only [setMember, hk, ↓reduceIte, List.mem_cons] at h ⊢
      rcases h with h | h
      · exact Or.inr (Or.inl h)
      · exact (ih h).imp id Or.inr

theorem nodup_setMember (h : (members.map Prod.fst).Nodup) :
    ((setMember name value members).map Prod.fst).Nodup := by
  induction members with
  | nil => simp [setMember]
  | cons first rest ih =>
    obtain ⟨key, old⟩ := first
    obtain ⟨hkey, hrest⟩ := List.nodup_cons.mp h
    by_cases hk : key = name
    · subst hk
      simpa [setMember] using ⟨by simpa using hkey, hrest⟩
    · simp only [setMember, hk, ↓reduceIte, List.map_cons]
      refine List.nodup_cons.mpr ⟨?_, ih hrest⟩
      intro hm
      obtain ⟨m, hm, he⟩ := List.mem_map.mp hm
      rcases mem_setMember hm with rfl | hm
      · exact hk he.symm
      · exact hkey (List.mem_map.mpr ⟨m, hm, he⟩)

theorem namesDistinct_foldl_setMember (h : ∀ p ∈ pairs, NamesDistinct p.2)
    (hm : NamesDistinct (.object members)) :
    NamesDistinct (.object (pairs.foldl (fun ms (name, value) => setMember name value ms)
      members)) := by
  induction pairs generalizing members with
  | nil => exact hm
  | cons p pairs ih =>
    obtain ⟨hp, hpairs⟩ := List.forall_mem_cons.mp h
    cases hm with
    | object names values =>
      refine ih hpairs (.object (nodup_setMember names) ?_)
      intro m hm
      rcases mem_setMember hm with rfl | hm
      · exact hp
      · exact values m hm

theorem namesDistinct_membersOf (h : ∀ p ∈ pairs, NamesDistinct p.2) :
    NamesDistinct (.object (membersOf pairs)) :=
  namesDistinct_foldl_setMember h (.object (by simp) (by simp))

end Members

/-- What the step reads has distinct names. -/
def ReadsDistinct (item : Step Json) : Prop :=
  ∀ text v rest, item text = .ok (v, rest) → NamesDistinct v

section Reading
variable {item : Step Json}

theorem readItems_distinct (h : ReadsDistinct item) (bound : Nat) :
    ∀ text vs rest, readItems item bound text = .ok (vs, rest) → ∀ v ∈ vs, NamesDistinct v := by
  induction bound with
  | zero =>
    intro text vs rest hr
    cases hr
  | succ bound ih =>
    intro text vs rest hr
    obtain ⟨⟨first, left⟩, hfirst, hr⟩ := bind_eq_ok_iff.mp hr
    have hfirst := h text first left hfirst
    dsimp only at hr
    split at hr
    · cases hr
      simpa using hfirst
    · obtain ⟨⟨more, left⟩, hmore, hr⟩ := bind_eq_ok_iff.mp hr
      cases hr
      exact List.forall_mem_cons.mpr ⟨hfirst, ih _ _ _ hmore⟩
    · cases hr

theorem readMember_distinct (h : ReadsDistinct item) {text rest : List Char} {m : String × Json}
    (hr : readMember item text = .ok (m, rest)) : NamesDistinct m.2 := by
  unfold readMember at hr
  split at hr
  · obtain ⟨⟨name, left⟩, _, hr⟩ := bind_eq_ok_iff.mp hr
    dsimp only at hr
    split at hr
    · obtain ⟨⟨value, left⟩, hvalue, hr⟩ := bind_eq_ok_iff.mp hr
      cases hr
      exact h _ _ _ hvalue
    · cases hr
  · cases hr

theorem readMembers_distinct (h : ReadsDistinct item) (bound : Nat) :
    ∀ text ms rest, readMembers item bound text = .ok (ms, rest) →
      ∀ m ∈ ms, NamesDistinct m.2 := by
  induction bound with
  | zero =>
    intro text ms rest hr
    cases hr
  | succ bound ih =>
    intro text ms rest hr
    obtain ⟨⟨first, left⟩, hfirst, hr⟩ := bind_eq_ok_iff.mp hr
    have hfirst := readMember_distinct h hfirst
    dsimp only at hr
    split at hr
    · cases hr
      simpa using hfirst
    · obtain ⟨⟨more, left⟩, hmore, hr⟩ := bind_eq_ok_iff.mp hr
      cases hr
      exact List.forall_mem_cons.mpr ⟨hfirst, ih _ _ _ hmore⟩
    · cases hr

theorem readConstant?_distinct {text rest : List Char} {v : Json}
    (h : readConstant? text = some (v, rest)) : NamesDistinct v := by
  obtain ⟨⟨word, value⟩, hmem, hr⟩ := List.exists_of_findSome?_eq_some h
  obtain ⟨left, _, he⟩ := Option.map_eq_some_iff.mp hr
  cases he
  simp only [constants, List.mem_cons, Prod.mk.injEq, List.not_mem_nil, or_false] at hmem
  rcases hmem with ⟨_, rfl⟩ | ⟨_, rfl⟩ | ⟨_, rfl⟩ | ⟨_, rfl⟩ | ⟨_, rfl⟩ | ⟨_, rfl⟩
  · exact .null
  · exact .bool true
  · exact .bool false
  · exact .nonFinite .nan
  · exact .nonFinite .infinity
  · exact .nonFinite .negativeInfinity

theorem readNumber?_distinct {text rest : List Char} {v : Json}
    (h : readNumber? text = some (v, rest)) : NamesDistinct v := by
  obtain ⟨⟨integral, left⟩, _, h⟩ := Option.bind_eq_some_iff.mp h
  dsimp only at h
  split at h
  · cases h
    exact .integer _
  · cases h
    exact .decimal _

theorem readValue_distinct (depth : Nat) : ReadsDistinct (readValue depth) := by
  induction depth with
  | zero =>
    intro text v rest h
    cases h
  | succ depth ih =>
    intro text v rest h
    unfold readValue at h
    split at h
    · obtain ⟨⟨value, left⟩, _, h⟩ := bind_eq_ok_iff.mp h
      cases h
      exact .string _
    · split at h
      · cases h
        exact .object (by simp) (by simp)
      · obtain ⟨⟨members, left⟩, hms, h⟩ := bind_eq_ok_iff.mp h
        cases h
        exact namesDistinct_membersOf (readMembers_distinct ih _ _ _ _ hms)
    · split at h
      · cases h
        exact .array (by simp)
      · obtain ⟨⟨items, left⟩, hvs, h⟩ := bind_eq_ok_iff.mp h
        cases h
        exact .array (readItems_distinct ih _ _ _ _ hvs)
    · split at h
      · -- An integer is read unless it is too long.
        dsimp only at h
        split at h
        · cases h
          exact .integer _
        · cases h
      · next found _ hfound =>
        cases h
        cases hc : readConstant? text with
        | some constant =>
          rw [hc] at hfound
          cases hfound
          exact readConstant?_distinct hc
        | none =>
          rw [hc] at hfound
          exact readNumber?_distinct hfound
      · cases h

end Reading

theorem namesDistinct_of_parse {text : List Char} {v : Json} (h : parse text = .ok v) :
    NamesDistinct v := by
  have h := mapError_eq_ok_iff.mp h
  unfold readText at h
  split at h
  · cases h
  · obtain ⟨⟨value, rest⟩, hv, h⟩ := bind_eq_ok_iff.mp h
    dsimp only at h
    split at h
    · cases h
      exact readValue_distinct _ _ _ _ hv
    · cases h

end RecordBuilders.Json
