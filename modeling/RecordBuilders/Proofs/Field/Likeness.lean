import Mathlib.Data.List.Forall2
import RecordBuilders.Field.Record

/-! Declarations that say the same, wherever they stand. What is left of a declaration without its
places, its attributes, its variants and all but the first annotation of each field is classified
in the same way: its members differ in their places alone, and so do its problems. -/
namespace RecordBuilders
open Syntax

section Alike

/-- The fields have one name and one type, and their first annotations say the same. -/
structure Syntax.Field.Alike (f g : Field) : Prop where
  name : f.name = g.name
  type : f.type = g.type
  mark : f.annotations.head?.map (fun a => (a.path, a.input)) =
    g.annotations.head?.map fun a => (a.path, a.input)

structure Syntax.Declaration.Alike (d e : Declaration) : Prop where
  name : d.name = e.name
  kind : d.kind = e.kind
  fields : d.fields.Forall₂ Field.Alike e.fields

def Syntax.Attribute.bare (a : Attribute) : Attribute := { a with location := none }

def Syntax.Field.bare (f : Field) : Field where
  name := f.name
  type := f.type
  annotations := (f.annotations.take 1).map Attribute.bare

def Syntax.Declaration.bare (d : Declaration) : Declaration where
  name := d.name
  kind := d.kind
  fields := d.fields.map Field.bare

theorem Syntax.Field.Alike.bare_eq {f g : Field} (h : f.Alike g) : f.bare = g.bare := by
  obtain ⟨name, type, annotations, location⟩ := f
  obtain ⟨name', type', annotations', location'⟩ := g
  obtain ⟨rfl, rfl, hmark⟩ := h
  cases annotations with
  | nil =>
    cases annotations' with
    | nil => rfl
    | cons a' rest' => cases hmark
  | cons a rest =>
    cases annotations' with
    | nil => cases hmark
    | cons a' rest' =>
      obtain ⟨hpath, hinput⟩ := Prod.mk.inj (Option.some.inj hmark)
      simp only [Field.bare, List.take_succ_cons, List.take_zero, List.map_cons, List.map_nil,
        Attribute.bare, hpath, hinput]

/-- Lists whose items are the same to `f`, position by position. -/
theorem map_eq_of_forall₂ {α β : Type} {R : α → α → Prop} {f : α → β}
    (hf : ∀ a b, R a b → f a = f b) {xs ys : List α} (h : xs.Forall₂ R ys) :
    xs.map f = ys.map f := by
  induction h with
  | nil => rfl
  | cons head _ ih => rw [List.map_cons, List.map_cons, hf _ _ head, ih]

theorem Syntax.Declaration.Alike.bare_eq {d e : Declaration} (h : d.Alike e) : d.bare = e.bare := by
  have hfields := map_eq_of_forall₂ (fun _ _ hf => Field.Alike.bare_eq hf) h.fields
  rw [Declaration.bare, Declaration.bare, h.name, h.kind, hfields]

end Alike

def Member.bare (m : Member) : Member := { m with location := none }

def Issue.unplaced (i : Issue) : Issue := { i with origin := .unknown }

/-- What a diagnostic says apart from its place and its notes: message, code, phase and field. -/
def Diagnostic.content (x : Diagnostic) :
    String × Option String × Option String × Option String :=
  (x.message, x.code, x.phase, x.field)

theorem Issue.content_unplaced (i : Issue) (file file' : Option String) :
    (i.unplaced.diagnostic file).content = (i.diagnostic file').content := rfl

namespace Config
variable (c : Config)

section Fields

theorem fieldOutcome_bare (f : Field) :
    c.fieldOutcome f.bare = ((c.fieldOutcome f).map Member.bare).mapError Issue.unplaced := by
  obtain ⟨name, type, annotations, location⟩ := f
  unfold fieldOutcome classify
  have hname : (Field.bare ⟨name, type, annotations, location⟩).usableName? =
      (Syntax.Field.mk name type annotations location).usableName? := rfl
  rw [hname]
  cases (Syntax.Field.mk name type annotations location).usableName? with
  | none => rfl
  | some used =>
    cases annotations with
    | nil =>
      simp only [Field.bare, List.take_nil, List.map_nil]
      cases type.unwrap? c.optionalWrapper <;> rfl
    | cons a rest =>
      simp only [Field.bare, List.take_succ_cons, List.take_zero, List.map_cons, List.map_nil]
      have helement : c.elementMethod a.bare = c.elementMethod a := rfl
      rw [helement]
      cases c.elementMethod a with
      | error fault => cases fault <;> rfl
      | ok method => cases type.unwrap? c.sequenceWrapper <;> rfl

theorem classified_bare (fields : List Field) :
    c.classified (fields.map Field.bare) = (c.classified fields).map Member.bare := by
  rw [classified, classified, List.filterMap_map, List.map_filterMap]
  congr 1
  funext f
  rw [Function.comp_apply, fieldOutcome_bare]
  cases c.fieldOutcome f <;> rfl

theorem fieldIssues_bare (fields : List Field) :
    c.fieldIssues (fields.map Field.bare) = (c.fieldIssues fields).map Issue.unplaced := by
  rw [fieldIssues, fieldIssues, List.filterMap_map, List.map_filterMap]
  congr 1
  funext f
  rw [Function.comp_apply, fieldOutcome_bare]
  cases c.fieldOutcome f <;> rfl

end Fields

end Config

section Names

def NameClash.bare : NameClash → NameClash
  | .reservedClass name => .reservedClass name
  | .reservedField m => .reservedField m.bare
  | .factory m => .factory m.bare
  | .reservedMethod m method => .reservedMethod m.bare method
  | .buildMethod m method => .buildMethod m.bare method
  | .storage m method owner => .storage m.bare method owner.bare
  | .duplicate m method owner => .duplicate m.bare method owner

theorem NameClash.issue_bare (c : Config) (record : String) (location : Option Text.Position)
    (clash : NameClash) :
    clash.bare.issue c record none = (clash.issue c record location).unplaced := by
  cases clash <;> rfl

namespace Config
variable (c : Config)

theorem methodClash?_bare (members : List Member) (claims : Claims) (m : Member)
    (method : String) : c.methodClash? (members.map Member.bare) claims m.bare method =
      (c.methodClash? members claims m method).map NameClash.bare := by
  unfold methodClash?
  rw [List.find?_map]
  have hslot : (fun x : Member => x.slot == method) ∘ Member.bare = fun x => x.slot == method := rfl
  have hname : m.bare.name = m.name := rfl
  rw [hslot, hname]
  split
  · rfl
  · split
    · rfl
    · cases members.find? (·.slot == method) with
      | some owner => rfl
      | none => cases claims.lookup method <;> rfl

theorem claimMethods_bare (members : List Member) (m : Member) (claims : Claims)
    (methods : List String) : c.claimMethods (members.map Member.bare) m.bare claims methods =
      ((c.claimMethods members m claims methods).1.map NameClash.bare,
        (c.claimMethods members m claims methods).2) := by
  induction methods generalizing claims with
  | nil => rfl
  | cons method methods ih =>
    unfold claimMethods
    rw [methodClash?_bare]
    cases c.methodClash? members claims m method with
    | some clash => simp only [Option.map_some, ih, List.map_cons]
    | none => exact ih _

theorem memberClashesFrom_bare (members : List Member) (claims : Claims) (rest : List Member) :
    c.memberClashesFrom (members.map Member.bare) claims (rest.map Member.bare) =
      (c.memberClashesFrom members claims rest).map NameClash.bare := by
  induction rest generalizing claims with
  | nil => rfl
  | cons m rest ih =>
    rw [List.map_cons]
    unfold memberClashesFrom
    have hname : m.bare.name = m.name := rfl
    have hmethods : m.bare.methods = m.methods := rfl
    rw [hname, hmethods]
    split
    · rw [ih]
      rfl
    · rw [claimMethods_bare]
      dsimp only
      rw [ih, List.map_append, List.map_append]
      split <;> rfl

theorem nameIssues_bare (d : Declaration) (members : List Member) :
    c.nameIssues d.bare (members.map Member.bare) =
      (c.nameIssues d members).map Issue.unplaced := by
  have hname : d.bare.name = d.name := rfl
  have hclashes : c.nameClashes d.name (members.map Member.bare) =
      (c.nameClashes d.name members).map NameClash.bare := by
    rw [nameClashes, nameClashes, memberClashesFrom_bare, List.map_append, classClashes,
      List.map_map]
    rfl
  rw [nameIssues, nameIssues, hname, hclashes, List.map_map, List.map_map]
  exact List.map_congr_left fun clash _ => clash.issue_bare c d.name d.location

end Config

end Names

section Records

def RecordFault.bare : RecordFault → RecordFault
  | .notAStruct kind _ => .notAStruct kind none
  | .unnamedField _ => .unnamedField none

theorem Syntax.Declaration.recordFields_bare (d : Declaration) :
    d.bare.recordFields =
      (d.recordFields.map (·.map Field.bare)).mapError RecordFault.bare := by
  have hkind : d.bare.kind = d.kind := rfl
  have hfields : d.bare.fields = d.fields.map Field.bare := rfl
  have hname : (fun f : Field => f.usableName?.isNone) ∘ Field.bare =
      fun f => f.usableName?.isNone := rfl
  unfold recordFields
  rw [hkind, hfields, List.find?_map, hname]
  split
  · cases d.fields.find? (·.usableName?.isNone) <;> rfl
  · rfl

/-- Without its places a declaration has the same members, or is refused for the same reasons. -/
theorem Config.members_bare (c : Config) (d : Declaration) :
    c.members d.bare =
      ((c.members d).map (·.map Member.bare)).mapError (·.map Issue.unplaced) := by
  unfold Config.members
  rw [d.recordFields_bare]
  cases d.recordFields with
  | error fault => cases fault <;> rfl
  | ok fields =>
    have hissues : c.fieldIssues (fields.map Field.bare) ++
        c.nameIssues d.bare (c.classified (fields.map Field.bare)) =
          (c.fieldIssues fields ++ c.nameIssues d (c.classified fields)).map Issue.unplaced := by
      rw [c.fieldIssues_bare, c.classified_bare, c.nameIssues_bare, List.map_append]
    simp only [Except.map, Except.mapError]
    rw [hissues]
    cases c.fieldIssues fields ++ c.nameIssues d (c.classified fields) with
    | nil => exact congrArg Except.ok (c.classified_bare fields)
    | cons issue issues => rfl

end Records

end RecordBuilders
