import RecordBuilders.Field.Record

/-! When the names of a record's members do not clash. The check goes through the members one after
the other and remembers the methods that it has met; what it accepts is a condition on the members
as a whole, in which their order plays no part. -/
namespace RecordBuilders
open Syntax Target

namespace Member

theorem name_mem_methods (m : Member) : m.name ∈ m.methods := by
  obtain ⟨name, declared, role, location⟩ := m
  cases role with
  | required => simp [methods]
  | optional inner => simp [methods]
  | repeatable element method =>
    by_cases h : method = name <;> simp [methods, hasBulkSetter, h]

theorem elementMethod_mem_methods {m : Member} {element : TypeExpr} {method : String}
    (h : m.role = .repeatable element method) : method ∈ m.methods := by
  simp only [methods, h]
  split <;> exact List.mem_cons_self

/-- A method is named like its field, or it is the element method. -/
theorem eq_name_or_role_of_mem_methods {m : Member} {method : String} (h : method ∈ m.methods) :
    method = m.name ∨ ∃ element, m.role = .repeatable element method := by
  unfold methods at h
  split at h
  · next element elementMethod hr =>
    split at h
    · rcases List.mem_cons.mp h with rfl | h
      · exact Or.inr ⟨element, hr⟩
      · exact Or.inl (List.mem_singleton.mp h)
    · rw [List.mem_singleton.mp h]
      exact Or.inr ⟨element, hr⟩
  · exact Or.inl (List.mem_singleton.mp h)

end Member

namespace Config

/-- No two things in the classes of a record have the same name, and all names can be used, as far
as the check of names goes. -/
structure NamesApart (c : Config) (record : String) (members : List Member) : Prop where
  record_usable : isUnusableForClass record = false
  builder_usable : isUnusableForClass (c.builderName record) = false
  fields : ∀ m ∈ members, isUnusable m.name = false ∧ m.name ≠ c.factoryName
  methods : ∀ method ∈ members.flatMap Member.methods,
    isUnusable method = false ∧ method ≠ c.buildMethod ∧ method ∉ members.map Member.slot
  distinct : (members.flatMap Member.methods).Nodup

/-- The methods can be claimed one after the other, where others are taken already. -/
structure Claimable (c : Config) (members : List Member) (taken methods : List String) : Prop where
  free : ∀ method ∈ methods, isUnusable method = false ∧ method ≠ c.buildMethod ∧
    method ∉ members.map Member.slot ∧ method ∉ taken
  distinct : methods.Nodup

section Checking
variable {c : Config} {members : List Member} {taken methods : List String}

/-- Methods that are claimed are taken for those that come later. -/
theorem claimable_append {first later : List String} :
    c.Claimable members taken (first ++ later) ↔
      c.Claimable members taken first ∧ c.Claimable members (first.reverse ++ taken) later := by
  constructor
  · rintro ⟨hfree, hd⟩
    obtain ⟨hfirst, hlater, hapart⟩ := List.nodup_append.mp hd
    refine ⟨⟨fun x hx => hfree x (List.mem_append_left _ hx), hfirst⟩, ?_, hlater⟩
    intro x hx
    obtain ⟨hu, hb, hs, ht⟩ := hfree x (List.mem_append_right _ hx)
    refine ⟨hu, hb, hs, ?_⟩
    intro htaken
    rcases List.mem_append.mp htaken with hf | htaken
    · exact hapart x (List.mem_reverse.mp hf) x hx rfl
    · exact ht htaken
  · rintro ⟨⟨hfree, hfirst⟩, hlater, hd⟩
    refine ⟨?_, List.nodup_append.mpr ⟨hfirst, hd, ?_⟩⟩
    · intro x hx
      rcases List.mem_append.mp hx with hx | hx
      · exact hfree x hx
      · obtain ⟨hu, hb, hs, ht⟩ := hlater x hx
        exact ⟨hu, hb, hs, fun htaken => ht (List.mem_append_right _ htaken)⟩
    · rintro x hx y hy rfl
      exact (hlater x hy).2.2.2 (List.mem_append_left _ (List.mem_reverse.mpr hx))

theorem claimable_singleton {method : String} :
    c.Claimable members taken [method] ↔
      isUnusable method = false ∧ method ≠ c.buildMethod ∧ method ∉ members.map Member.slot ∧
        method ∉ taken :=
  ⟨fun h => h.free method List.mem_cons_self,
    fun h => ⟨fun _ hx => List.mem_singleton.mp hx ▸ h, List.pairwise_singleton _ method⟩⟩

/-- A method named like its field is not asked whether it can be used, since the field was. -/
theorem methodClash?_eq_none_iff {claims : Claims} {m : Member} {method : String}
    (hm : isUnusable m.name = false) :
    c.methodClash? members claims m method = none ↔
      c.Claimable members (claims.map Prod.fst) [method] := by
  rw [claimable_singleton]
  unfold methodClash?
  split
  · rename_i hr
    simp [hr.2]
  · rename_i hr
    have hu : isUnusable method = false := by
      by_cases he : method = m.name
      · rw [he]
        exact hm
      · simpa [he] using hr
    split
    · rename_i hb
      simp [hb]
    · rename_i hb
      split
      · rename_i owner hf
        have hslot : method ∈ members.map Member.slot :=
          List.mem_map.mpr ⟨owner, List.mem_of_find?_eq_some hf, by
            simpa using List.find?_some hf⟩
        simp only [reduceCtorEq, false_iff]
        exact fun h => h.2.2.1 hslot
      · rename_i hf
        have hs : method ∉ members.map Member.slot := by
          intro hslot
          obtain ⟨owner, ho, he⟩ := List.mem_map.mp hslot
          exact List.find?_eq_none.mp hf owner ho (by simpa using he)
        have hl : claims.lookup method = none ↔ method ∉ claims.map Prod.fst := by
          rw [List.lookup_eq_none_iff, List.mem_map]
          constructor
          · rintro h ⟨p, hp, rfl⟩
            simpa using h p hp
          · intro h p hp
            simpa using fun he => h ⟨p, hp, Eq.symm he⟩
        rw [Option.map_eq_none_iff, hl]
        exact ⟨fun h => ⟨hu, hb, hs, h⟩, fun h => h.2.2.2⟩

/-- Methods that are claimed without a clash are all remembered, the last one first. -/
theorem claims_of_claimMethods {claims : Claims} {m : Member}
    (h : (c.claimMethods members m claims methods).1 = []) :
    (c.claimMethods members m claims methods).2.map Prod.fst =
      methods.reverse ++ claims.map Prod.fst := by
  induction methods generalizing claims with
  | nil => rfl
  | cons method methods ih =>
    cases hc : c.methodClash? members claims m method with
    | some clash => simp [claimMethods, hc] at h
    | none =>
      simp only [claimMethods, hc] at h ⊢
      rw [ih h]
      simp

theorem claimMethods_eq_nil_iff {claims : Claims} {m : Member} (hm : isUnusable m.name = false) :
    (c.claimMethods members m claims methods).1 = [] ↔
      c.Claimable members (claims.map Prod.fst) methods := by
  induction methods generalizing claims with
  | nil => exact iff_of_true rfl ⟨by simp, List.nodup_nil⟩
  | cons method methods ih =>
    rw [← List.singleton_append, claimable_append, ← methodClash?_eq_none_iff hm,
      List.singleton_append]
    cases hc : c.methodClash? members claims m method with
    | some clash => simp [claimMethods, hc]
    | none =>
      simp only [claimMethods, hc, true_and]
      exact ih

/-- What the walk over the members accepts, whatever was claimed before it. -/
theorem memberClashesFrom_eq_nil_iff {claims : Claims} {rest : List Member} :
    c.memberClashesFrom members claims rest = [] ↔
      (∀ m ∈ rest, isUnusable m.name = false ∧ m.name ≠ c.factoryName) ∧
        c.Claimable members (claims.map Prod.fst) (rest.flatMap Member.methods) := by
  induction rest generalizing claims with
  | nil => exact iff_of_true rfl ⟨by simp, by simp, List.nodup_nil⟩
  | cons m rest ih =>
    rw [List.forall_mem_cons, List.flatMap_cons, claimable_append]
    cases hu : isUnusable m.name with
    | true => simp [memberClashesFrom, hu]
    | false =>
      simp only [memberClashesFrom, hu, Bool.false_eq_true, ↓reduceIte, List.append_eq_nil_iff]
      rw [← claimMethods_eq_nil_iff hu]
      constructor
      · rintro ⟨⟨hf, hc⟩, hr⟩
        obtain ⟨hfields, hmethods⟩ := ih.mp hr
        rw [claims_of_claimMethods hc] at hmethods
        exact ⟨⟨⟨trivial, by simpa using hf⟩, hfields⟩, hc, hmethods⟩
      · rintro ⟨⟨⟨_, hf⟩, hfields⟩, hc, hmethods⟩
        rw [← claims_of_claimMethods hc] at hmethods
        exact ⟨⟨by simpa using hf, hc⟩, ih.mpr ⟨hfields, hmethods⟩⟩

theorem classClashes_eq_nil_iff {record : String} :
    c.classClashes record = [] ↔
      isUnusableForClass record = false ∧ isUnusableForClass (c.builderName record) = false := by
  simp [classClashes]

/-- The check of names finds nothing exactly where no names clash. -/
theorem nameClashes_eq_nil_iff {record : String} :
    c.nameClashes record members = [] ↔ c.NamesApart record members := by
  rw [nameClashes, List.append_eq_nil_iff, classClashes_eq_nil_iff, memberClashesFrom_eq_nil_iff]
  constructor
  · rintro ⟨⟨hr, hb⟩, hf, hm, hd⟩
    exact ⟨hr, hb, hf, fun x hx => ⟨(hm x hx).1, (hm x hx).2.1, (hm x hx).2.2.1⟩, hd⟩
  · rintro ⟨hr, hb, hf, hm, hd⟩
    have hfree : c.Claimable members [] (members.flatMap Member.methods) := by
      refine ⟨?_, hd⟩
      intro x hx
      obtain ⟨hu, hx, hs⟩ := hm x hx
      exact ⟨hu, hx, hs, List.not_mem_nil⟩
    exact ⟨⟨hr, hb⟩, hf, hfree⟩

theorem nameIssues_eq_nil_iff {d : Declaration} :
    c.nameIssues d members = [] ↔ c.NamesApart d.name members := by
  rw [nameIssues, List.map_eq_nil_iff, nameClashes_eq_nil_iff]

end Checking
end Config
end RecordBuilders
