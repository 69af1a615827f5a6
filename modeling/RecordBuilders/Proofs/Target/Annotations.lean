import RecordBuilders.Proofs.Target.LegiblePairs
import RecordBuilders.Proofs.Target.Outline

/-! The annotations of a record and of its builder. The record annotates a field by the last segment
of its declared type. A wrapper is found in the first segment, and around what it wraps the builder
annotates the slot. So the two agree if and only if these segments have the same hint. -/
namespace RecordBuilders
open Syntax Target

namespace Config
variable {c : Config}

/-- What the role of a member says of its declared type. -/
def Fits (c : Config) (m : Member) : Prop :=
  match m.role with
  | .required => True
  | .optional inner => m.declared.unwrap? c.optionalWrapper = some inner
  | .repeatable element _ => m.declared.unwrap? c.sequenceWrapper = some element

theorem fits_of_classify {f : Field} {m : Member} (h : c.classify f = .ok m) : c.Fits m := by
  obtain ⟨name, role, _, hrole, rfl⟩ := classify_eq_ok_iff.mp h
  cases hrole with
  | required _ _ => exact trivial
  | optional _ wrapped => exact wrapped
  | repeatable _ _ wrapped => exact wrapped

end Config

namespace Target

/-- The type map renders the wrappers as the types under which the builder stores what they wrap. -/
structure WrapsAsStored (c : Config) : Prop where
  optional : c.typeMap.target c.optionalWrapper = "Optional"
  sequence : c.typeMap.target c.sequenceWrapper = "list"

theorem wrapsAsStored_default : WrapsAsStored .default where
  optional := by decide
  sequence := by decide

/-- The first segment alone has the hint of the whole path. -/
def HintedByHead (map : TypeMap) : TypeExpr → Prop
  | .path (first :: others) => segmentHint map first = lastHint map (first :: others)
  | _ => False

/-- A path of one segment is its own first and last one. -/
theorem hintedByHead_singleton (map : TypeMap) (s : Segment) : HintedByHead map (.path [s]) := rfl

namespace HintedMember

/-- The annotation of the slot. -/
def slotHint (m : HintedMember) : String :=
  match m.role with
  | .repeatable _ _ => m.sequenceHint
  | _ => "Optional[" ++ m.valueHint ++ "]"

/-- The annotation of a slot that can hold what the field is annotated to hold, and `None` if it has
to be filled. -/
def dueSlotHint (m : HintedMember) : String :=
  if m.isRequired then "Optional[" ++ m.declaredHint ++ "]" else m.declaredHint

theorem initialLine_eq (m : HintedMember) : m.initialLine = line 2 ("self." ++ m.slot ++ ": " ++
    m.slotHint ++ (" = " ++ Outline.initialValue m.toMember)) := by
  unfold initialLine slotHint Outline.initialValue
  cases m.role with
  | repeatable element method => rfl
  | required => simp only [String.append_assoc]; rfl
  | optional inner => simp only [String.append_assoc]; rfl

end HintedMember

/-- Where the two annotations of a member stand in the classes. -/
structure ClassPair.Annotates (p : ClassPair) (m : HintedMember) : Prop where
  field : line 1 (m.name ++ ": " ++ m.declaredHint) ∈ p.recordLines
  slot : line 2 ("self." ++ m.slot ++ ": " ++ m.slotHint ++
    (" = " ++ Outline.initialValue m.toMember)) ∈ p.storageLines
  bulk : m.hasBulkSetter = true →
    line 1 ("def " ++ m.name ++ "(self, value: " ++ m.slotHint ++ ") -> " ++ p.builder ++ ":") ∈
      p.setterLines m

theorem ClassPair.annotates {p : ClassPair} {m : HintedMember} (hm : m ∈ p.members) :
    p.Annotates m where
  field := by
    have hline : m.fieldLine ∈ p.members.map HintedMember.fieldLine := List.mem_map_of_mem hm
    simp only [recordLines, List.mem_append]
    exact .inl (.inl (.inr hline))
  slot := by
    have hline : m.initialLine ∈ p.members.map HintedMember.initialLine := List.mem_map_of_mem hm
    have hne : p.members.isEmpty = false := by simpa using List.ne_nil_of_mem hm
    rw [← m.initialLine_eq, storageLines, hne]
    exact List.mem_append_right _ hline
  bulk := by
    intro hbulk
    cases hr : m.role with
    | required => simp [Member.hasBulkSetter, hr] at hbulk
    | optional inner => simp [Member.hasBulkSetter, hr] at hbulk
    | repeatable element method =>
      simp only [setterLines, HintedMember.slotHint, hr, hbulk, ↓reduceIte]
      exact List.mem_append_right _ (by simp [methodLines])

theorem segmentHint_wrapper {map : TypeMap} {wrapper target text : String} {inner : TypeExpr}
    (ht : map.target wrapper = target) (hne : target.isEmpty = false)
    (h : hint map inner = .ok text) :
    segmentHint map (.applied wrapper [.type inner]) = .ok (target ++ "[" ++ text ++ "]") := by
  have hwrapped : applyHint map wrapper [text] = target ++ "[" ++ text ++ "]" := by
    simp [applyHint, ht, hne]
  rw [segmentHint, argumentHints, h, argumentHints, ← hwrapped]
  rfl

section Hints
variable {c : Config} {m : HintedMember}

/-- A member that need not be set is annotated by the two ends of its declared type. -/
theorem hints_of_wrapped (hc : WrapsAsStored c) (hfits : c.Fits m.toMember)
    (hd : hint c.typeMap m.declared = .ok m.declaredHint)
    (hv : hint c.typeMap m.valueType = .ok m.valueHint) (hr : m.isRequired = false) :
    ∃ first others, m.declared = .path (first :: others) ∧
      segmentHint c.typeMap first = .ok m.slotHint ∧
      lastHint c.typeMap (first :: others) = .ok m.declaredHint := by
  cases hrole : m.role with
  | required => simp [Member.isRequired, hrole] at hr
  | optional inner =>
    simp only [Config.Fits, hrole] at hfits
    simp only [Member.valueType, hrole] at hv
    obtain ⟨others, ht⟩ := TypeExpr.eq_of_unwrap? hfits
    rw [ht, hint] at hd
    refine ⟨_, others, ht, ?_, hd⟩
    simp only [segmentHint_wrapper hc.optional (by decide) hv, HintedMember.slotHint, hrole]
    rfl
  | repeatable element method =>
    simp only [Config.Fits, hrole] at hfits
    simp only [Member.valueType, hrole] at hv
    obtain ⟨others, ht⟩ := TypeExpr.eq_of_unwrap? hfits
    rw [ht, hint] at hd
    refine ⟨_, others, ht, ?_, hd⟩
    simp only [segmentHint_wrapper hc.sequence (by decide) hv, HintedMember.slotHint, hrole]
    rfl

theorem slotHint_eq_iff (hc : WrapsAsStored c) (hfits : c.Fits m.toMember)
    (hd : hint c.typeMap m.declared = .ok m.declaredHint)
    (hv : hint c.typeMap m.valueType = .ok m.valueHint) :
    m.slotHint = m.dueSlotHint ↔ m.isRequired = true ∨ HintedByHead c.typeMap m.declared := by
  cases hr : m.isRequired with
  | true =>
    have hrole : m.role = .required := by
      cases hrole : m.role <;> simp [Member.isRequired, hrole] at hr ⊢
    have hsame : m.valueHint = m.declaredHint := by
      rw [Member.valueType, hrole, hd] at hv
      exact (Except.ok.inj hv).symm
    simp [HintedMember.slotHint, HintedMember.dueSlotHint, hrole, hr, hsame]
  | false =>
    obtain ⟨first, others, ht, hs, hl⟩ := hints_of_wrapped hc hfits hd hv hr
    simp [HintedMember.dueSlotHint, HintedByHead, hr, ht, hs, hl]

end Hints

/-- A declaration from a source text gets its classes if its members are accepted. -/
theorem exists_derive {c : Config} {d : Declaration} {members : List Member} (hd : d.FromSource)
    (hm : c.members d = .ok members) (file : Option String) : ∃ p, derive c file d = .ok p := by
  cases h : derive c file d with
  | ok p => exact ⟨p, rfl⟩
  | error refusal =>
    cases refusal with
    | unhinted fault => exact absurd h (derive_ne_unhinted hd fault)
    | problems diagnostics =>
      obtain ⟨issues, hissues, _⟩ := derive_eq_problems_iff.mp h
      rw [hm] at hissues
      cases hissues

/-- A declaration from a source text whose members are accepted gets its classes, and these are
their annotations. The slot of a member that has to be set is always annotated as is due to it; any
other slot, and with it the argument that replaces a whole sequence, if and only if the first segment
of the declared type has the hint of the last one. -/
theorem annotations_agree_iff {d : Declaration} {members : List Member} (hd : d.FromSource)
    (hm : Config.default.members d = .ok members) (file : Option String) :
    ∃ p, derive .default file d = .ok p ∧ p.members.map HintedMember.toMember = members ∧
      ∀ m ∈ p.members, p.Annotates m ∧
        (m.slotHint = m.dueSlotHint ↔
          m.isRequired = true ∨ HintedByHead .default m.declared) := by
  obtain ⟨p, hp⟩ := exists_derive hd hm file
  have hfor : p.IsFor .default d := ClassPair.isFor_of_derive hp
  refine ⟨p, hp, Except.ok.inj (hfor.members.symm.trans hm), fun m hmem => ?_⟩
  obtain ⟨hdeclared, hvalue⟩ := ClassPair.hints_of_derive hp m hmem
  obtain ⟨f, _, hc⟩ := Config.exists_classify_of_members hfor.members m.toMember
    (List.mem_map_of_mem hmem)
  exact ⟨ClassPair.annotates hmem,
    slotHint_eq_iff wrapsAsStored_default (Config.fits_of_classify hc) hdeclared hvalue⟩

/-- A record with two optional members, of which one is declared as a part of what the wrapper
makes. -/
def qualified : Declaration where
  name := "S"
  fields := [
    { name := "x"
      type := .path [.applied "Option" [.type (.path [.plain "u8"])], .plain "Foo"]
      location := some ⟨1, 12⟩ },
    { name := "y"
      type := .path [.applied "Option" [.type (.path [.plain "u8"])]]
      location := some ⟨1, 32⟩ }]
  location := some ⟨1, 1⟩

theorem qualified_fromSource : qualified.FromSource :=
  ⟨"struct S \x7b x: Option<u8>::Foo, y: Option<u8> \x7d", [qualified], by cbv,
    List.mem_singleton_self qualified⟩

theorem qualified_annotations : ∃ p, derive .default none qualified = .ok p ∧
    p.members.map (fun m => m.name) = ["x", "y"] ∧
      ∀ m ∈ p.members, (m.slotHint = m.dueSlotHint ↔ m.name = "y") := by
  have hm : Config.default.members qualified = .ok [
      { name := "x"
        declared := .path [.applied "Option" [.type (.path [.plain "u8"])], .plain "Foo"]
        role := .optional (.path [.plain "u8"])
        location := some ⟨1, 12⟩ },
      { name := "y"
        declared := .path [.applied "Option" [.type (.path [.plain "u8"])]]
        role := .optional (.path [.plain "u8"])
        location := some ⟨1, 32⟩ }] := by cbv
  obtain ⟨p, hp, hmembers, hagree⟩ := annotations_agree_iff qualified_fromSource hm none
  have hnames := congrArg (List.map Member.name) hmembers
  rw [List.map_map] at hnames
  refine ⟨p, hp, hnames, fun m hmem => (hagree m hmem).2.trans ?_⟩
  have hmember : m.toMember ∈ p.members.map HintedMember.toMember := List.mem_map_of_mem hmem
  rw [hmembers] at hmember
  rcases List.mem_cons.mp hmember with he | hmember
  · have hx : ¬HintedByHead .default
        (.path [.applied "Option" [.type (.path [.plain "u8"])], .plain "Foo"]) :=
      fun h => absurd (Except.ok.inj h) (by decide)
    simp [he, Member.isRequired, hx]
  · simp [List.mem_singleton.mp hmember, hintedByHead_singleton]

end Target
end RecordBuilders
