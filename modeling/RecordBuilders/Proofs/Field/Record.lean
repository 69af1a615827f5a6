import Mathlib.Data.List.Forall2
import Mathlib.Data.List.Nodup
import RecordBuilders.Builder.ClassLayout
import RecordBuilders.Proofs.Field.Classification
import RecordBuilders.Proofs.Field.MemberNames

/-! The names that the two classes of an accepted record bind. Main result: of all pairs of them only
a slot can clash, and only with one of three fixed names. -/
namespace RecordBuilders
open Syntax Target

namespace Config
variable {c : Config}

/-- A record is accepted if it is a struct with named fields all of which can be classified, and if
the names of its members are apart. -/
theorem members_eq_ok_iff {d : Declaration} {members : List Member} :
    c.members d = .ok members ↔
      ∃ fields, d.recordFields = .ok fields ∧ c.fieldIssues fields = [] ∧
        c.NamesApart d.name members ∧ c.classified fields = members := by
  cases hr : d.recordFields with
  | error fault => simp [Config.members, hr]
  | ok fields =>
    constructor
    · intro h
      obtain ⟨hf, hn, rfl⟩ := (members_eq_ok_iff_of_fields hr).mp h
      exact ⟨fields, rfl, hf, nameIssues_eq_nil_iff.mp hn, rfl⟩
    · rintro ⟨_, ⟨⟩, hf, ha, rfl⟩
      exact (members_eq_ok_iff_of_fields hr).mpr ⟨hf, nameIssues_eq_nil_iff.mpr ha, rfl⟩

/-- The members of an accepted record are its fields, one for one and in their order. -/
theorem classify_of_members {d : Declaration} {members : List Member}
    (h : c.members d = .ok members) :
    d.fields.Forall₂ (fun f m => c.classify f = .ok m) members := by
  obtain ⟨fields, hf, hi, hn, rfl⟩ := members_eq_ok_iff.mp h
  rw [← (Declaration.recordFields_eq_ok_iff.mp hf).2]
  clear hf hn h
  induction fields with
  | nil => exact .nil
  | cons f fields ih =>
    cases hc : c.classify f with
    | error fault => simp [fieldIssues, fieldOutcome, hc, Except.mapError] at hi
    | ok m =>
      have ho : c.fieldOutcome f = .ok m := by rw [fieldOutcome, hc]; rfl
      have hi : c.fieldIssues fields = [] := by simpa [fieldIssues, ho] using hi
      have hm : c.classified (f :: fields) = m :: c.classified fields := by
        simp [classified, ho, Except.toOption]
      rw [hm]
      exact .cons hc (ih hi)

theorem exists_classify_of_members {d : Declaration} {members : List Member}
    (h : c.members d = .ok members) : ∀ m ∈ members, ∃ f ∈ d.fields, c.classify f = .ok m := by
  intro m hm
  obtain ⟨i, hi, rfl⟩ := List.getElem_of_mem hm
  have hall := classify_of_members h
  have hl : i < d.fields.length := by rw [hall.length_eq]; exact hi
  exact ⟨d.fields[i], List.getElem_mem hl, hall.get hl hi⟩

/-- What a declaration is refused for: for what it is, for one of its fields, or for names. -/
inductive IsReason (c : Config) (d : Declaration) : Issue → Prop
  | record (fault : RecordFault) : IsReason c d fault.issue
  | field {f : Field} {fault : FieldFault} (declared : f ∈ d.fields)
      (refused : c.classify f = .error fault) : IsReason c d (fault.issue c f)
  | names (clash : NameClash) : IsReason c d (clash.issue c d.name d.location)

theorem isReason_of_members {d : Declaration} {issues : List Issue}
    (h : c.members d = .error issues) : ∀ i ∈ issues, c.IsReason d i := by
  intro i hi
  rcases members_eq_error_iff.mp h with ⟨fault, _, rfl⟩ | ⟨fields, hf, _, rfl⟩
  · rw [List.mem_singleton.mp hi]
    exact .record fault
  · obtain ⟨_, rfl⟩ := Declaration.recordFields_eq_ok_iff.mp hf
    rcases List.mem_append.mp hi with hi | hi
    · obtain ⟨f, hmem, hi⟩ := List.mem_filterMap.mp hi
      cases hc : c.classify f with
      | ok m => simp [fieldOutcome, hc, Except.mapError] at hi
      | error fault =>
        simp only [fieldOutcome, hc, Except.mapError, Option.some.injEq] at hi
        exact hi ▸ .field hmem hc
    · obtain ⟨clash, _, rfl⟩ := List.mem_map.mp hi
      exact .names clash

theorem isIdentifier_of_elementMethod {a : Attribute} {name : String}
    (h : c.elementMethod a = .ok name) : Text.isIdentifier name = true := by
  unfold elementMethod at h
  split at h
  · split at h
    · dsimp only at h
      split at h
      · split at h
        · next hi =>
          cases h
          exact hi
        · cases h
      · cases h
    · cases h
    · cases h
  · cases h

theorem isIdentifier_of_classify {f : Field} {m : Member} {element : TypeExpr}
    {method : String} (h : c.classify f = .ok m) (hr : m.role = .repeatable element method) :
    Text.isIdentifier method = true := by
  have hrole := gives_of_classify h
  rw [hr] at hrole
  cases hrole with
  | repeatable _ named _ => exact isIdentifier_of_elementMethod named

theorem NamesApart.of_members {d : Declaration} {members : List Member}
    (h : c.members d = .ok members) : c.NamesApart d.name members := by
  obtain ⟨_, _, _, ha, _⟩ := members_eq_ok_iff.mp h
  exact ha

section Accepted
variable {record : String} {members : List Member}

/-- Every member has a method of its own name, so no two members share a name. -/
theorem NamesApart.names_nodup (h : c.NamesApart record members) :
    (members.map Member.name).Nodup := by
  have hd := h.distinct
  clear h
  induction members with
  | nil => exact List.nodup_nil
  | cons m rest ih =>
    rw [List.flatMap_cons] at hd
    obtain ⟨_, hrest, hapart⟩ := List.nodup_append.mp hd
    rw [List.map_cons]
    refine List.nodup_cons.mpr ⟨?_, ih hrest⟩
    intro hm
    obtain ⟨n, hn, he⟩ := List.mem_map.mp hm
    exact hapart m.name m.name_mem_methods n.name
      (List.mem_flatMap.mpr ⟨n, hn, n.name_mem_methods⟩) he.symm

theorem NamesApart.slots_nodup (h : c.NamesApart record members) :
    (members.map Member.slot).Nodup := by
  have he : members.map Member.slot = (members.map Member.name).map ("_" ++ ·) := by
    simp [Function.comp_def, Member.slot]
  rw [he]
  apply h.names_nodup.map
  intro a b hab
  simpa using hab

/-- The names that the body of a builder class binds. -/
def boundNames (c : Config) (members : List Member) : List String :=
  [slotsName, initializerName] ++ members.flatMap Member.methods ++ [c.buildMethod]

/-- The names in a builder class: its slots stand beside what its body binds. -/
def builderNames (c : Config) (members : List Member) : List String :=
  members.map Member.slot ++ c.boundNames members

/-- The names in a record class. -/
def recordNames (c : Config) (members : List Member) : List String :=
  members.map Member.name ++ [c.factoryName]

theorem NamesApart.boundNames_nodup (h : c.NamesApart record members) :
    (c.boundNames members).Nodup := by
  refine List.nodup_append.mpr ⟨List.nodup_append.mpr ⟨by decide, h.distinct, ?_⟩,
    List.nodup_singleton _, ?_⟩
  · rintro fixed hf method hm rfl
    have hu := (h.methods fixed hm).1
    rcases List.mem_cons.mp hf with rfl | hf
    · exact absurd hu (by decide)
    · rw [List.mem_singleton.mp hf] at hu
      exact absurd hu (by decide)
  · rintro name hn build hb rfl
    rw [List.mem_singleton.mp hb] at hn
    rcases List.mem_append.mp hn with hf | hm
    · have hu := c.buildMethod_usable
      rcases List.mem_cons.mp hf with he | hf
      · rw [he] at hu
        exact absurd hu (by decide +kernel)
      · rw [List.mem_singleton.mp hf] at hu
        exact absurd hu (by decide +kernel)
    · exact (h.methods c.buildMethod hm).2.1 rfl

theorem NamesApart.recordNames_nodup (h : c.NamesApart record members) :
    (c.recordNames members).Nodup := by
  refine List.nodup_append.mpr ⟨h.names_nodup, List.nodup_singleton _, ?_⟩
  intro name hn factory hf he
  obtain ⟨m, hm, rfl⟩ := List.mem_map.mp hn
  exact (h.fields m hm).2 (he.trans (List.mem_singleton.mp hf))

/-- What the check of names leaves open is a slot that is named like the list of slots, the
initializer or the build method. Everything else in the two classes has a name of its own, and no
field or method has a name that is reserved. -/
theorem accepted_names_distinct_iff {d : Declaration} {members : List Member}
    (h : c.members d = .ok members) :
    ((c.builderNames members).Nodup ↔
      ∀ m ∈ members, m.slot ∉ [slotsName, initializerName, c.buildMethod]) ∧
    (c.recordNames members).Nodup ∧
    ∀ m ∈ members, ∀ name ∈ m.name :: m.methods, isUnusable name = false := by
  have ha := NamesApart.of_members h
  refine ⟨⟨?_, ?_⟩, ha.recordNames_nodup, ?_⟩
  · intro hn m hm hfixed
    obtain ⟨_, _, hapart⟩ := List.nodup_append.mp hn
    refine hapart m.slot (List.mem_map_of_mem hm) m.slot ?_ rfl
    rcases List.mem_cons.mp hfixed with he | hfixed
    · simp [boundNames, he]
    rcases List.mem_cons.mp hfixed with he | hfixed
    · simp [boundNames, he]
    · simp [boundNames, List.mem_singleton.mp hfixed]
  · intro hfree
    refine List.nodup_append.mpr ⟨ha.slots_nodup, ha.boundNames_nodup, ?_⟩
    rintro slot hs name hn rfl
    obtain ⟨m, hm, rfl⟩ := List.mem_map.mp hs
    rcases List.mem_append.mp hn with hn | hb
    · rcases List.mem_append.mp hn with hf | hmethod
      · exact hfree m hm (by
          rcases List.mem_cons.mp hf with he | hf
          · simp [he]
          · simp [List.mem_singleton.mp hf])
      · exact (ha.methods m.slot hmethod).2.2 hs
    · exact hfree m hm (by simp [List.mem_singleton.mp hb])
  · intro m hm name hname
    rcases List.mem_cons.mp hname with rfl | hname
    · exact (ha.fields m hm).1
    · exact (ha.methods name (List.mem_flatMap.mpr ⟨m, hm, hname⟩)).1

/-- A record whose second field is a sequence with an element method. -/
def player : Declaration where
  name := "Player"
  fields := [
    { name := some "name", type := .path [.plain "String"] },
    { name := some "friends"
      type := .path [.applied "Vec" [.type (.path [.plain "String"])]]
      annotations := [{
        path := ["builder"]
        input := .arguments [.word "each", .punct "=", .literal "\"friend\""] }] }]

theorem player_names_distinct :
    ∃ members, Config.default.members player = .ok members ∧
      (Config.default.builderNames members).Nodup := by
  have hm : ∃ members, Config.default.members player = .ok members ∧
      members.map Member.slot = ["_name", "_friends"] := ⟨_, rfl, rfl⟩
  obtain ⟨members, hm, hslots⟩ := hm
  refine ⟨members, hm, (accepted_names_distinct_iff hm).1.mpr ?_⟩
  intro m hmem
  have hslot : m.slot ∈ ["_name", "_friends"] := hslots ▸ List.mem_map_of_mem hmem
  revert hslot
  generalize m.slot = slot
  revert slot
  decide

end Accepted
end Config
end RecordBuilders
