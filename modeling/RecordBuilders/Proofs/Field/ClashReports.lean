import Mathlib.Data.List.Perm.Basic
import RecordBuilders.Proofs.Field.MemberNames

/-! What the check of names reports. Whether it finds anything is a matter of the names alone and not
of the order of the members. A method that it reports as a duplicate belongs to the member that is to
blame and to the one that the note tells of, which comes earlier. -/
namespace RecordBuilders
open Syntax Target

namespace Member

/-- The methods of one member never clash with each other. -/
theorem methods_nodup (m : Member) : m.methods.Nodup := by
  obtain ⟨name, declared, role, location⟩ := m
  cases role with
  | required => simp [methods]
  | optional inner => simp [methods]
  | repeatable element method =>
    by_cases h : method = name <;> simp [methods, hasBulkSetter, h]

end Member

namespace Config

section Condition
variable {c : Config} {record : String} {members : List Member}

theorem isUnusableForClass_eq_false_iff {name : String} :
    isUnusableForClass name = false ↔ isUnusable name = false ∧ name ∉ headerNames := by
  simp [isUnusableForClass]

/-- What it takes for the names to be apart, kind by kind: class names, the names of fields and of
their element methods, and all methods taken together. -/
theorem namesApart_iff : c.NamesApart record members ↔
    (∀ name ∈ [record, c.builderName record], isUnusable name = false ∧ name ∉ headerNames) ∧
    (∀ m ∈ members, isUnusable m.name = false ∧ m.name ≠ c.factoryName ∧
      ∀ element method, m.role = .repeatable element method → isUnusable method = false) ∧
    (members.flatMap Member.methods).Nodup ∧
    ∀ method ∈ members.flatMap Member.methods,
      method ≠ c.buildMethod ∧ ∀ m ∈ members, method ≠ m.slot := by
  constructor
  · intro h
    refine ⟨?_, fun m hm => ?_, h.distinct, fun method hmethod => ?_⟩
    · simpa [← isUnusableForClass_eq_false_iff] using ⟨h.record_usable, h.builder_usable⟩
    · obtain ⟨husable, hfactory⟩ := h.fields m hm
      refine ⟨husable, hfactory, fun element method hr => ?_⟩
      exact (h.methods method
        (List.mem_flatMap.mpr ⟨m, hm, Member.elementMethod_mem_methods hr⟩)).1
    · obtain ⟨_, hbuild, hslots⟩ := h.methods method hmethod
      exact ⟨hbuild, fun m hm he => hslots (he ▸ List.mem_map_of_mem hm)⟩
  · rintro ⟨hclasses, hfields, hdistinct, hmethods⟩
    refine ⟨?_, ?_, fun m hm => ⟨(hfields m hm).1, (hfields m hm).2.1⟩, fun method hmethod => ?_,
      hdistinct⟩
    · exact isUnusableForClass_eq_false_iff.mpr (hclasses record (by simp))
    · exact isUnusableForClass_eq_false_iff.mpr (hclasses (c.builderName record) (by simp))
    · obtain ⟨m, hm, hof⟩ := List.mem_flatMap.mp hmethod
      obtain ⟨hname, _, helement⟩ := hfields m hm
      obtain ⟨hbuild, hslots⟩ := hmethods method hmethod
      refine ⟨?_, hbuild, ?_⟩
      · rcases Member.eq_name_or_role_of_mem_methods hof with rfl | ⟨element, hr⟩
        · exact hname
        · exact helement element method hr
      · intro hslot
        obtain ⟨owner, howner, he⟩ := List.mem_map.mp hslot
        exact hslots owner howner he.symm

/-- No part of the condition asks for the order of the members. -/
theorem NamesApart.perm {others : List Member} (h : c.NamesApart record members)
    (hp : members.Perm others) : c.NamesApart record others where
  record_usable := h.record_usable
  builder_usable := h.builder_usable
  fields m hm := h.fields m (hp.mem_iff.mpr hm)
  methods method hmethod := by
    have hm := (hp.flatMap_right Member.methods).mem_iff.mpr hmethod
    obtain ⟨husable, hbuild, hslots⟩ := h.methods method hm
    exact ⟨husable, hbuild, fun hs => hslots ((hp.map Member.slot).mem_iff.mpr hs)⟩
  distinct := (hp.flatMap_right Member.methods).nodup_iff.mp h.distinct

end Condition

section Duplicates
variable {c : Config} {members : List Member} {claims : Claims}

theorem methodClash?_eq_duplicate {m m' : Member} {method method' owner : String}
    (h : c.methodClash? members claims m method = some (.duplicate m' method' owner)) :
    m' = m ∧ method' = method ∧ claims.lookup method = some owner := by
  unfold methodClash? at h
  split at h
  · cases h
  · split at h
    · cases h
    · split at h
      · cases h
      · obtain ⟨found, hl, he⟩ := Option.map_eq_some_iff.mp h
        cases he
        exact ⟨rfl, rfl, hl⟩

/-- What is claimed behind a member was claimed before it, or the member did so. -/
theorem mem_claims_of_claimMethods {m : Member} {methods : List String} {claim : String × String}
    (h : claim ∈ (c.claimMethods members m claims methods).2) :
    claim ∈ claims ∨ claim.1 ∈ methods ∧ claim.2 = m.name := by
  induction methods generalizing claims with
  | nil => exact .inl h
  | cons method methods ih =>
    unfold claimMethods at h
    split at h
    · rcases ih h with hold | ⟨hnew, hname⟩
      · exact .inl hold
      · exact .inr ⟨List.mem_cons_of_mem _ hnew, hname⟩
    · rcases ih h with hold | ⟨hnew, hname⟩
      · rcases List.mem_cons.mp hold with rfl | hold
        · exact .inr ⟨List.mem_cons_self, rfl⟩
        · exact .inl hold
      · exact .inr ⟨List.mem_cons_of_mem _ hnew, hname⟩

/-- A duplicate was claimed before the member. It is not the member that claimed it, since no two of
its own methods are the same. -/
theorem duplicate_of_claimMethods {m m' : Member} {methods : List String} {method owner : String}
    (hd : methods.Nodup)
    (h : .duplicate m' method owner ∈ (c.claimMethods members m claims methods).1) :
    m' = m ∧ method ∈ methods ∧ claims.lookup method = some owner := by
  induction methods generalizing claims with
  | nil => cases h
  | cons first methods ih =>
    obtain ⟨hfirst, hd⟩ := List.nodup_cons.mp hd
    unfold claimMethods at h
    split at h
    · next clash hclash =>
      rcases List.mem_cons.mp h with rfl | h
      · obtain ⟨rfl, rfl, hl⟩ := methodClash?_eq_duplicate hclash
        exact ⟨rfl, List.mem_cons_self, hl⟩
      · obtain ⟨hm, hmethod, hl⟩ := ih hd h
        exact ⟨hm, List.mem_cons_of_mem _ hmethod, hl⟩
    · obtain ⟨hm, hmethod, hl⟩ := ih hd h
      have hne : (method == first) = false := by simpa using ne_of_mem_of_not_mem hmethod hfirst
      rw [List.lookup_cons, hne] at hl
      exact ⟨hm, List.mem_cons_of_mem _ hmethod, hl⟩

/-- Every claim is a method of one of the members, under whose name it stands. -/
def ClaimedBy (members : List Member) (claims : Claims) : Prop :=
  ∀ claim ∈ claims, ∃ n ∈ members, n.name = claim.2 ∧ claim.1 ∈ n.methods

theorem ClaimedBy.claimMethods {before : List Member} {m : Member} (h : ClaimedBy before claims) :
    ClaimedBy (before ++ [m]) (c.claimMethods members m claims m.methods).2 := by
  intro claim hclaim
  rcases mem_claims_of_claimMethods hclaim with hold | ⟨hnew, hname⟩
  · obtain ⟨n, hn, hof⟩ := h claim hold
    exact ⟨n, List.mem_append_left _ hn, hof⟩
  · exact ⟨m, by simp, hname.symm, hnew⟩

/-- The member to blame for a duplicate stands behind one that has the method, too. -/
theorem duplicate_of_memberClashesFrom {before rest : List Member} {m : Member}
    {method owner : String} (hc : ClaimedBy before claims)
    (h : .duplicate m method owner ∈ c.memberClashesFrom members claims rest) :
    ∃ n, [n, m].Sublist (before ++ rest) ∧ n.name = owner ∧ method ∈ n.methods ∧
      method ∈ m.methods := by
  induction rest generalizing before claims with
  | nil => cases h
  | cons first rest ih =>
    unfold memberClashesFrom at h
    split at h
    · -- Nothing is claimed by a member with a reserved name; the walk only leaves it behind.
      rcases List.mem_cons.mp h with h | h
      · cases h
      have hc : ClaimedBy (before ++ [first]) claims := by
        intro claim hclaim
        obtain ⟨n, hn, hof⟩ := hc claim hclaim
        exact ⟨n, List.mem_append_left _ hn, hof⟩
      simpa using ih hc h
    · simp only [List.mem_append] at h
      rcases h with (hfactory | hown) | hlater
      · split at hfactory
        · cases List.mem_singleton.mp hfactory
        · cases hfactory
      · obtain ⟨rfl, hmethod, hl⟩ := duplicate_of_claimMethods first.methods_nodup hown
        obtain ⟨earlier, later, hclaims, _⟩ := List.lookup_eq_some_iff.mp hl
        obtain ⟨n, hn, hname, hof⟩ := hc (method, owner) (by simp [hclaims])
        refine ⟨n, ?_, hname, hof, hmethod⟩
        exact (List.singleton_sublist.mpr hn).append (List.singleton_sublist.mpr List.mem_cons_self)
      · simpa using ih hc.claimMethods hlater

end Duplicates

end Config

section Messages
open NameClash

theorem NameClash.ticked_inj {name other : String} (h : ticked name = ticked other) :
    name = other := by
  have hl := congrArg String.toList h
  simp only [ticked, String.toList_append, List.append_left_inj, List.append_right_inj] at hl
  exact String.toList_inj.mp hl

/-- The message of a duplicate tells which method it is, and no other clash has such a message. -/
theorem NameClash.eq_duplicate_of_message {c : Config} {record method : String} {clash : NameClash}
    (h : clash.message c record = "duplicate builder method " ++ ticked method) :
    ∃ m owner, clash = .duplicate m method owner := by
  delta message at h
  have hl := congrArg String.toList h
  cases clash with
  | duplicate m other owner =>
    rw [String.toList_append, String.toList_append, List.append_right_inj] at hl
    exact ⟨m, owner, by rw [ticked_inj (String.toList_inj.mp hl)]⟩
  | _ => simp [ticked, String.toList_append] at hl

end Messages

namespace Config
open NameClash

/-- The check of names has nothing to report exactly if class names, fields, element methods and the
methods as a whole keep to their conditions, whatever the order of the members. Whoever it blames for
a duplicate has the method, and so has the earlier member that its note tells of. -/
theorem nameIssues_report (c : Config) (d : Declaration) (members : List Member) :
    (c.nameIssues d members = [] ↔
      (∀ name ∈ [d.name, c.builderName d.name], isUnusable name = false ∧ name ∉ headerNames) ∧
      (∀ m ∈ members, isUnusable m.name = false ∧ m.name ≠ c.factoryName ∧
        ∀ element method, m.role = .repeatable element method → isUnusable method = false) ∧
      (members.flatMap Member.methods).Nodup ∧
      ∀ method ∈ members.flatMap Member.methods,
        method ≠ c.buildMethod ∧ ∀ m ∈ members, method ≠ m.slot) ∧
    (∀ others, members.Perm others → (c.nameIssues d members = [] ↔ c.nameIssues d others = [])) ∧
    ∀ i ∈ c.nameIssues d members, ∀ method,
      i.message = "duplicate builder method " ++ ticked method →
      ∃ n m, [n, m].Sublist members ∧ method ∈ n.methods ∧ method ∈ m.methods ∧
        i.field = some m.name ∧ i.origin = .ofPosition? m.location ∧
        i.notes = ["also generated for field " ++ ticked n.name] := by
  refine ⟨nameIssues_eq_nil_iff.trans namesApart_iff, fun others hp => ?_, fun i hi method hm => ?_⟩
  · rw [nameIssues_eq_nil_iff, nameIssues_eq_nil_iff]
    exact ⟨fun h => h.perm hp, fun h => h.perm hp.symm⟩
  · obtain ⟨clash, hclash, rfl⟩ := List.mem_map.mp hi
    obtain ⟨m, owner, rfl⟩ := NameClash.eq_duplicate_of_message hm
    have hwalk := (List.mem_append.mp hclash).resolve_left fun h => by simp [classClashes] at h
    have hnone : ClaimedBy [] [] := fun claim hclaim => absurd hclaim List.not_mem_nil
    obtain ⟨n, hsub, rfl, hn, hmethod⟩ := duplicate_of_memberClashesFrom hnone hwalk
    exact ⟨n, m, hsub, hn, hmethod, rfl, rfl, rfl⟩

/-- A field, and a sequence whose element method is named like it. -/
def rivals : List Member := [
  { name := "x", declared := .path [.plain "u8"], role := .required },
  { name := "ys"
    declared := .path [.applied "Vec" [.type (.path [.plain "u8"])]]
    role := .repeatable (.path [.plain "u8"]) "x" }]

theorem rivals_report : ∃ i ∈ Config.default.nameIssues { name := "S" } rivals,
    i.field = some "ys" ∧ i.notes = ["also generated for field `x`"] := by
  have hissues : Config.default.nameIssues { name := "S" } rivals = [{
      category := .naming
      message := "duplicate builder method `x`"
      field := some "ys"
      notes := ["also generated for field `x`"] }] := by decide +kernel
  have hi : _ ∈ Config.default.nameIssues { name := "S" } rivals := hissues ▸ List.mem_cons_self
  obtain ⟨n, m, hsub, _, _, hfield, _, hnotes⟩ :=
    (nameIssues_report .default { name := "S" } rivals).2.2 _ hi "x" rfl
  have hpair : [n, m] = rivals := hsub.eq_of_length rfl
  cases hpair
  exact ⟨_, hi, hfield, hnotes⟩

end Config
end RecordBuilders
