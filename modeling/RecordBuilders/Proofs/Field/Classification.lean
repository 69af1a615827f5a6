import RecordBuilders.Field.Record
import RecordBuilders.Proofs.Success

/-! What becomes of a field when it is classified: the role that it gets, or the fault that keeps it
from one; and what the members of a record are made from. Later proofs start from here and do not
open the classification again. -/
namespace RecordBuilders
open Syntax

/-- A wrapper around one type is the first segment of a path. -/
theorem Syntax.TypeExpr.eq_of_unwrap? {t inner : TypeExpr} {wrapper : String}
    (h : t.unwrap? wrapper = some inner) :
    ∃ others, t = .path (.applied wrapper [.type inner] :: others) := by
  unfold unwrap? at h
  split at h
  · cases h
  · split at h
    · next hname =>
      cases h
      exact ⟨_, by rw [hname]⟩
    · cases h
  · cases h

namespace Config

/-- The role of a field whose name is not in question. Only its first annotation counts. -/
inductive Gives (c : Config) (f : Field) : Role → Prop where
  | required (plain : f.annotations = []) (bare : f.type.unwrap? c.optionalWrapper = none) :
      Gives c f .required
  | optional {inner : TypeExpr} (plain : f.annotations = [])
      (wrapped : f.type.unwrap? c.optionalWrapper = some inner) : Gives c f (.optional inner)
  | repeatable {a : Attribute} {others : List Attribute} {method : String} {element : TypeExpr}
      (marked : f.annotations = a :: others) (named : c.elementMethod a = .ok method)
      (wrapped : f.type.unwrap? c.sequenceWrapper = some element) :
      Gives c f (.repeatable element method)

/-- What a field is refused for. -/
inductive Refuses (c : Config) (f : Field) : FieldFault → Prop where
  | unnamed (unnamed : f.usableName? = none) : Refuses c f .unnamed
  | mark {name : String} {a : Attribute} {others : List Attribute} {fault : MarkFault}
      (named : f.usableName? = some name) (marked : f.annotations = a :: others)
      (misread : c.elementMethod a = .error fault) : Refuses c f (.mark a fault)
  | notASequence {name : String} {a : Attribute} {others : List Attribute} {method : String}
      (named : f.usableName? = some name) (marked : f.annotations = a :: others)
      (read : c.elementMethod a = .ok method) (bare : f.type.unwrap? c.sequenceWrapper = none) :
      Refuses c f .notASequence

variable {c : Config} {f : Field}

theorem classify_eq_ok_iff {m : Member} : c.classify f = .ok m ↔ ∃ name role,
    f.usableName? = some name ∧ c.Gives f role ∧ m = ⟨name, f.type, role, f.location⟩ := by
  constructor
  · intro h
    unfold classify at h
    split at h
    · cases h
    · next name hname =>
      split at h
      · next marked =>
        split at h
        · cases h
        · next named =>
          split at h
          · next wrapped =>
            cases h
            exact ⟨name, _, hname, .repeatable marked named wrapped, rfl⟩
          · cases h
      · next plain =>
        split at h
        · next wrapped =>
          cases h
          exact ⟨name, _, hname, .optional plain wrapped, rfl⟩
        · next bare =>
          cases h
          exact ⟨name, _, hname, .required plain bare, rfl⟩
  · rintro ⟨name, role, hname, hrole, rfl⟩
    cases hrole with
    | required plain bare => simp [classify, hname, plain, bare]
    | optional plain wrapped => simp [classify, hname, plain, wrapped]
    | repeatable marked named wrapped => simp [classify, hname, marked, named, wrapped]

theorem classify_eq_error_iff {fault : FieldFault} :
    c.classify f = .error fault ↔ c.Refuses f fault := by
  constructor
  · intro h
    unfold classify at h
    split at h
    · next unnamed =>
      cases h
      exact .unnamed unnamed
    · next named =>
      split at h
      · next marked =>
        split at h
        · next misread =>
          cases h
          exact .mark named marked misread
        · next read =>
          split at h
          · cases h
          · next bare =>
            cases h
            exact .notASequence named marked read bare
      · split at h <;> cases h
  · intro h
    cases h with
    | unnamed unnamed => simp [classify, unnamed]
    | mark named marked misread => simp [classify, named, marked, misread]
    | notASequence named marked read bare => simp [classify, named, marked, read, bare]

theorem fieldOutcome_eq_ok_iff {m : Member} : c.fieldOutcome f = .ok m ↔ c.classify f = .ok m :=
  mapError_eq_ok_iff

theorem fieldOutcome_eq_error_iff {i : Issue} :
    c.fieldOutcome f = .error i ↔ ∃ fault, c.classify f = .error fault ∧ fault.issue c f = i :=
  mapError_eq_error_iff

theorem name_eq_of_usableName? {name : String} (h : f.usableName? = some name) :
    f.name = some name ∧ name ≠ "" := by
  obtain ⟨hname, hne⟩ := Option.filter_eq_some_iff.mp h
  exact ⟨hname, by simpa using hne⟩

theorem usableName?_eq_some {name : String} (h : f.name = some name) (hne : name ≠ "") :
    f.usableName? = some name := by
  simp [Field.usableName?, h, hne]

theorem name_of_classify {m : Member} (h : c.classify f = .ok m) : f.name = some m.name := by
  obtain ⟨name, role, hname, _, rfl⟩ := classify_eq_ok_iff.mp h
  exact (name_eq_of_usableName? hname).1

theorem declared_of_classify {m : Member} (h : c.classify f = .ok m) : m.declared = f.type := by
  obtain ⟨name, role, _, _, rfl⟩ := classify_eq_ok_iff.mp h
  rfl

theorem gives_of_classify {m : Member} (h : c.classify f = .ok m) : c.Gives f m.role := by
  obtain ⟨name, role, _, hrole, rfl⟩ := classify_eq_ok_iff.mp h
  exact hrole

end Config

namespace Syntax.Declaration

/-- A struct all of whose fields have names. An empty name counts as none. -/
def IsRecord (d : Declaration) : Prop :=
  d.kind = .struct ∧ ∀ f ∈ d.fields, ∃ name, f.name = some name ∧ name ≠ ""

theorem recordFields_eq_ok_iff {d : Declaration} {fields : List Field} :
    d.recordFields = .ok fields ↔ d.IsRecord ∧ fields = d.fields := by
  have hnamed : d.fields.find? (·.usableName?.isNone) = none ↔
      ∀ f ∈ d.fields, ∃ name, f.name = some name ∧ name ≠ "" := by
    simp only [List.find?_eq_none, Option.isNone_iff_eq_none, Option.ne_none_iff_exists']
    refine forall₂_congr fun f _ => exists_congr fun name => ?_
    exact ⟨Config.name_eq_of_usableName?, fun h => Config.usableName?_eq_some h.1 h.2⟩
  unfold recordFields
  split
  · next hkind =>
    split
    · next f hf =>
      refine iff_of_false (by simp) fun h => ?_
      rw [hnamed.mpr h.1.2] at hf
      cases hf
    · next hf =>
      have hd : d.IsRecord := ⟨hkind, hnamed.mp hf⟩
      simp [hd, eq_comm]
  · next hkind => simp [IsRecord, hkind]

end Syntax.Declaration

namespace Config
section Records
variable {c : Config} {d : Declaration} {fields : List Field}

theorem members_eq_ok_iff_of_fields (hfields : d.recordFields = .ok fields) {members : List Member} :
    c.members d = .ok members ↔ c.fieldIssues fields = [] ∧
      c.nameIssues d (c.classified fields) = [] ∧ c.classified fields = members := by
  rw [← and_assoc, ← List.append_eq_nil_iff]
  unfold Config.members
  rw [hfields]
  dsimp only
  split
  · next hnone => simp [hnone]
  · next hsome => exact iff_of_false (by simp) fun h => hsome h.1

/-- A record is refused for what it is, or else for its fields and then their names. -/
theorem members_eq_error_iff {issues : List Issue} : c.members d = .error issues ↔
    (∃ fault, d.recordFields = .error fault ∧ issues = [fault.issue]) ∨
      ∃ fields, d.recordFields = .ok fields ∧ issues ≠ [] ∧
        issues = c.fieldIssues fields ++ c.nameIssues d (c.classified fields) := by
  unfold Config.members
  cases hr : d.recordFields with
  | error fault => simp [eq_comm]
  | ok fields =>
    simp only [reduceCtorEq, false_and, exists_false, false_or, Except.ok.injEq, exists_eq_left']
    split
    · next hnone => simp [hnone]
    · next hsome =>
      rw [Except.error.injEq]
      constructor
      · rintro rfl
        exact ⟨hsome, rfl⟩
      · rintro ⟨_, rfl⟩
        rfl

end Records

end Config
end RecordBuilders
