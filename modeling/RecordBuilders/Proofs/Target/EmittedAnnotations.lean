import RecordBuilders.Proofs.Target.AnnotationGrammar
import RecordBuilders.Proofs.Target.Annotations
import RecordBuilders.Proofs.Target.ModuleParts
import RecordBuilders.Proofs.Target.OutlineParts

/-! The annotations in the text of a module, found line by line: those of fields, of slots and of the
arguments of setters. Main result: they are well formed, except where a type has a name that is a
reserved word. -/
namespace RecordBuilders.Target
open Syntax Text Outline

section Reading

/-- What stands in front of an ending. -/
def before? (ending s : String) : Option String :=
  (ending.toList.reverse.isPrefixOf? s.toList.reverse).map fun cs => String.ofList cs.reverse

@[simp] theorem before?_append (s ending : String) : before? ending (s ++ ending) = some s := by
  rw [before?, String.toList_append, List.reverse_append, isPrefixOf?_append]
  simp

/-- What stands in front of the last such mark. -/
def beforeLast (mark : Char) (s : String) : String :=
  String.ofList (s.toList.reverse.dropWhile (· != mark)).tail.reverse

theorem beforeLast_append {s mark rest : String} {c : Char} (hm : mark.toList = [c])
    (h : c ∉ rest.toList) : beforeLast c (s ++ (mark ++ rest)) = s := by
  have hrest : ∀ d ∈ rest.toList.reverse, (d != c) = true := fun d hd =>
    bne_iff_ne.mpr (ne_of_mem_of_not_mem (List.mem_reverse.mp hd) h)
  rw [beforeLast, String.toList_append, String.toList_append, hm, List.reverse_append,
    List.reverse_append, List.append_assoc, List.dropWhile_append_of_pos hrest]
  simp

/-- The annotation of an attribute of the receiver that gets its first value. -/
def slotAnnotation? (l : String) : Option String := do
  let (_, rest) := leadingName (← after? "\t\tself." l)
  let annotated ← after? ": " rest
  before? " = None" annotated <|> before? " = []" annotated

/-- The annotation of the argument of a method. A name closes the line, so the last parenthesis is the
one that closes the arguments. -/
def parameterAnnotation? (l : String) : Option String := do
  let (_, rest) := leadingName (← after? "\tdef " l)
  return beforeLast ')' (← after? "(self, value: " rest)

def annotation? (l : String) : Option String :=
  (field? l).map Prod.snd <|> slotAnnotation? l <|> parameterAnnotation? l

/-- All annotations among the lines of a text. -/
def annotations (ls : List String) : List String := ls.filterMap annotation?

end Reading

section Lines

theorem annotation?_of_shallow {l : String} (h : l.toList.head? ≠ some '\t') :
    annotation? l = none := by
  simp [annotation?, field?, slotAnnotation?, parameterAnnotation?, after?, isPrefixOf?_eq_none h]

/-- A line is no field if something else follows the name that it begins with. -/
theorem field?_eq_none {name rest : String} (hn : IsNameLike name) (hr : EndsName rest)
    (h : after? ": " rest = none) : field? ("\t" ++ (name ++ rest)) = none := by
  rw [field?, after?_append]
  simp [leadingName_append hn hr, h]

theorem field?_deeper (depth : Nat) (s : String) : field? (line (depth + 2) s) = none := by
  have hline : line (depth + 2) s = "\t" ++ ("" ++ ("\t" ++ line depth s)) := by
    rw [← String.toList_inj]
    simp [line, List.replicate_succ]
  rw [hline]
  refine field?_eq_none (by simp [IsNameLike]) ?_ (by simp [after?, List.isPrefixOf?])
  exact endsName_append (by decide) _

theorem parameterAnnotation?_deeper (depth : Nat) (s : String) :
    parameterAnnotation? (line (depth + 2) s) = none := by
  simp [parameterAnnotation?, after?, line, List.replicate_succ, List.isPrefixOf?]

theorem annotation?_deepest (depth : Nat) (s : String) : annotation? (line (depth + 3) s) = none := by
  have hslot : slotAnnotation? (line (depth + 3) s) = none := by
    simp [slotAnnotation?, after?, line, List.replicate_succ, List.isPrefixOf?]
  simp [annotation?, field?_deeper, parameterAnnotation?_deeper, hslot]

theorem annotations_nonempty (ls : List String) :
    annotations (ls.filter fun l => !l.isEmpty) = annotations ls := by
  have hempty : annotation? "" = none := annotation?_of_shallow (by simp)
  rw [annotations, List.filterMap_filter]
  refine List.filterMap_congr fun l _ => ?_
  by_cases hl : l = "" <;> simp [hl, hempty]

/-- In a body only what begins with the receiver can have an annotation. -/
theorem annotation?_body {s : String} (h : s.toList.head? ≠ some 's') :
    annotation? (line 2 s) = none := by
  have hslot : slotAnnotation? (line 2 s) = none := by
    simp [slotAnnotation?, after?, line, List.isPrefixOf?, isPrefixOf?_eq_none h]
  simp [annotation?, field?_deeper, parameterAnnotation?_deeper, hslot]

theorem slotAnnotation?_eq {slot rest : String} (hs : IsNameLike slot) (hr : EndsName rest) :
    slotAnnotation? (line 2 ("self." ++ (slot ++ rest))) = (after? ": " rest).bind fun annotated =>
      before? " = None" annotated <|> before? " = []" annotated := by
  have hline : line 2 ("self." ++ (slot ++ rest)) = "\t\tself." ++ (slot ++ rest) := by
    rw [← String.toList_inj]
    simp [line]
  rw [slotAnnotation?, hline, after?_append]
  simp [leadingName_append hs hr]

theorem annotation?_receiver {slot rest : String} (hs : IsNameLike slot) (hr : EndsName rest) :
    annotation? (line 2 ("self." ++ (slot ++ rest))) = (after? ": " rest).bind fun annotated =>
      before? " = None" annotated <|> before? " = []" annotated := by
  simp [annotation?, field?_deeper, parameterAnnotation?_deeper, slotAnnotation?_eq hs hr]

theorem annotation?_definition {name rest : String} (hn : IsNameLike name) (hr : EndsName rest) :
    annotation? (line 1 ("def " ++ (name ++ rest))) =
      (after? "(self, value: " rest).map (beforeLast ')') := by
  have hdef : line 1 ("def " ++ (name ++ rest)) = "\tdef " ++ (name ++ rest) := by
    rw [← String.toList_inj]
    simp [line]
  have hword : line 1 ("def " ++ (name ++ rest)) = "\t" ++ ("def" ++ (" " ++ (name ++ rest))) := by
    rw [← String.toList_inj]
    simp [line]
  have hfield : field? (line 1 ("def " ++ (name ++ rest))) = none := by
    rw [hword]
    refine field?_eq_none (isNameLike_literal (by decide)) ?_ (by simp [after?, List.isPrefixOf?])
    exact endsName_append (by decide) _
  have hslot : slotAnnotation? (line 1 ("def " ++ (name ++ rest))) = none := by
    simp [slotAnnotation?, after?, line, List.isPrefixOf?]
  rw [annotation?, hfield, hslot, hdef, parameterAnnotation?, after?_append]
  simp [leadingName_append hn hr, Option.map_eq_bind]

end Lines

/-- The annotations of the arguments of the setters of a member. -/
def HintedMember.parameterHints (m : HintedMember) : List String :=
  m.valueHint :: if m.hasBulkSetter then [m.sequenceHint] else []

namespace ClassPair

/-- The annotations in the classes of a record: those of the fields, of the slots and of the
arguments. -/
def annotations (p : ClassPair) : List String :=
  p.members.map HintedMember.declaredHint ++ p.members.map HintedMember.slotHint ++
    p.members.flatMap HintedMember.parameterHints

variable {c : Config} {ends : Char → Bool} {p : ClassPair}

theorem annotation?_initialLine {m : HintedMember} (hs : IsNameLike m.slot) :
    annotation? m.initialLine = some m.slotHint := by
  have hrest (text : String) : EndsName (": " ++ text) :=
    endsName_append (by decide) _
  have hlist (s : String) : before? " = None" (s ++ " = []") = none := by
    simp [before?, List.isPrefixOf?]
  have hline (text : String) : line 2 ("self." ++ m.slot ++ ": " ++ text) =
      line 2 ("self." ++ (m.slot ++ (": " ++ text))) := by simp only [String.append_assoc]
  rw [m.initialLine_eq, String.append_assoc, hline, annotation?_receiver hs (hrest _), after?_append,
    Option.bind_some]
  unfold Outline.initialValue
  cases m.role with
  | required => simp
  | optional _ => simp
  | repeatable _ _ => simp [hlist]

theorem annotation?_setterHeading {name : String} (parameterHint code : String)
    (hn : IsNameLike name) (hb : IsNameLike p.builder) :
    annotation? (p.setterText name parameterHint code).heading = some parameterHint := by
  have hparen : ')' ∉ (" -> " ++ (p.builder ++ ":")).toList := by
    have hmark : isIdentifierPart ')' = false := not_isIdentifierPart_of_mem_codeMarks (by decide)
    have hbuilder : ')' ∉ p.builder.toList := fun hm => by
      rw [hb ')' hm] at hmark
      cases hmark
    simp [hbuilder]
  have hheading : (p.setterText name parameterHint code).heading = line 1 ("def " ++ (name ++
      ("(self, value: " ++ (parameterHint ++ (")" ++ (" -> " ++ (p.builder ++ ":"))))))) := by
    rw [← String.toList_inj]
    simp [setterText, MethodText.heading, line]
  rw [hheading, annotation?_definition hn (endsName_append (by decide) _),
    after?_append, Option.map_some, beforeLast_append rfl hparen]

/-- What a setter does has no annotation. -/
theorem annotation?_effect {slot effect : String} (hs : IsNameLike slot) (he : effect ∈ effects) :
    annotation? (line 2 ("self." ++ slot ++ effect)) = none := by
  have hall : ∀ effect ∈ effects,
      effect.toList.head?.all (codeMarks.contains ·) = true ∧ after? ": " effect = none := by decide
  obtain ⟨hmark, hnone⟩ := hall effect he
  rw [String.append_assoc, annotation?_receiver hs (endsName_of_mark hmark), hnone]
  rfl

theorem annotations_setterTexts {m : HintedMember} (hm : ∀ method ∈ m.methods, IsNameLike method)
    (hs : IsNameLike m.slot) (hb : IsNameLike p.builder) :
    Target.annotations ((p.setterTexts m).flatMap MethodText.lines) = m.parameterHints := by
  have hone (name parameterHint effect : String) (hn : name ∈ m.methods) (he : effect ∈ effects) :
      (p.setterText name parameterHint ("self." ++ m.slot ++ effect)).lines.filterMap annotation? =
        [parameterHint] := by
    have hreturn : annotation? (line 2 "return self") = none := annotation?_body (by decide)
    rw [MethodText.lines, List.filterMap_cons_some (annotation?_setterHeading _ _ (hm name hn) hb)]
    simp [setterText, annotation?_effect hs he, hreturn]
  have hplain := hone m.name m.valueHint " = value" m.name_mem_methods (by simp [effects])
  unfold Target.annotations setterTexts HintedMember.parameterHints
  rw [List.filterMap_flatMap]
  cases hr : m.role with
  | required => simp [hplain, Member.hasBulkSetter, hr]
  | optional _ => simp [hplain, Member.hasBulkSetter, hr]
  | repeatable _ method =>
    have hmethod := hone method m.valueHint ".append(value)" (Member.elementMethod_mem_methods hr)
      (by simp [effects])
    have hbulk := hone m.name m.sequenceHint " = list(value)" m.name_mem_methods (by simp [effects])
    cases m.hasBulkSetter <;> simp [hmethod, hbulk]

theorem annotations_recordBody (hn : ∀ m ∈ p.members, IsNameLike m.name)
    (hf : IsNameLike p.factory) :
    Target.annotations p.recordBody = p.members.map HintedMember.declaredHint := by
  have hfields : (p.members.map HintedMember.fieldLine).filterMap annotation? =
      p.members.map HintedMember.declaredHint := by
    rw [List.filterMap_map, ← List.filterMap_eq_map]
    refine List.filterMap_congr fun m hm => ?_
    simp [annotation?, field?_fieldLine (hn m hm)]
  have hat : annotation? (line 1 "@staticmethod") = none := by decide +kernel
  have hfactory : annotation? (line 1 ("def " ++ p.factory ++ "() -> " ++ p.builder ++ ":")) =
      none := by
    have hline : line 1 ("def " ++ p.factory ++ "() -> " ++ p.builder ++ ":") =
        line 1 ("def " ++ (p.factory ++ ("() -> " ++ (p.builder ++ ":")))) := by
      simp only [String.append_assoc]
    rw [hline, annotation?_definition hf (endsName_append (by decide) _)]
    simp [after?, List.isPrefixOf?]
  have hcall : annotation? (line 2 ("return " ++ p.builder ++ "()")) = none :=
    annotation?_body (by simp)
  simp [Target.annotations, recordBody, hfields, hat, hfactory, hcall]

theorem annotations_initializerText (hs : ∀ m ∈ p.members, IsNameLike m.slot) :
    Target.annotations p.initializerText.lines = p.members.map HintedMember.slotHint := by
  have hheading : annotation? p.initializerText.heading = none := by
    have hline : p.initializerText.heading = line 1 "def __init__(self) -> None:" := by
      simp [initializerText, MethodText.heading, line]
    rw [hline]
    decide +kernel
  have hpass : annotation? (line 2 "pass") = none := by decide +kernel
  rw [Target.annotations, MethodText.lines, List.filterMap_cons_none hheading]
  unfold initializerText
  dsimp only
  split
  · next hempty => simp [List.isEmpty_iff.mp hempty, hpass]
  · rw [List.filterMap_map, ← List.filterMap_eq_map]
    exact List.filterMap_congr fun m hm => annotation?_initialLine (hs m hm)

theorem annotations_buildText (hb : IsNameLike p.buildMethod) :
    Target.annotations p.buildText.lines = [] := by
  have hheading : annotation? p.buildText.heading = none := by
    have hline : p.buildText.heading =
        line 1 ("def " ++ (p.buildMethod ++ ("(self) -> " ++ (p.record ++ ":")))) := by
      rw [← String.toList_inj]
      simp [MethodText.heading, buildText, line]
    rw [hline, annotation?_definition hb (endsName_append (by decide) _)]
    simp [after?, List.isPrefixOf?]
  have hchecks (m : HintedMember) : ∀ l ∈ m.checkLines, annotation? l = none := by
    unfold HintedMember.checkLines
    split
    · simp only [List.forall_mem_cons]
      exact ⟨annotation?_body (by simp), annotation?_deepest 0 _, by simp⟩
    · simp
  have harguments (m : HintedMember) : annotation? m.argumentLine = none := by
    unfold HintedMember.argumentLine
    split
    · exact annotation?_deepest 0 _
    · exact annotation?_deepest 0 _
  have hcall : ∀ l ∈ p.callLines, annotation? l = none := by
    unfold callLines
    split
    · simpa using annotation?_body (by simp)
    · simp only [List.forall_mem_cons, List.forall_mem_append, List.forall_mem_map]
      exact ⟨annotation?_body (by simp), fun m _ => harguments m, annotation?_body (by decide),
        by simp⟩
  rw [Target.annotations, MethodText.lines, List.filterMap_cons_none hheading,
    List.filterMap_eq_nil_iff]
  refine List.forall_mem_append.mpr ⟨fun l hl => ?_, hcall⟩
  obtain ⟨m, _, hl⟩ := List.mem_flatMap.mp hl
  exact hchecks m l hl

theorem annotation?_slotsLine : annotation? p.slotsLine = none := by
  have hword : p.slotsLine = "\t" ++ ("__slots__" ++ (" = " ++
      slotTuple (p.members.map fun m => m.slot))) := by
    rw [← String.toList_inj]
    simp [slotsLine, line]
  have hfield : field? p.slotsLine = none := by
    rw [hword]
    refine field?_eq_none (isNameLike_literal (by decide)) ?_ (by simp [after?, List.isPrefixOf?])
    exact endsName_append (by decide) _
  rw [annotation?, hfield, hword]
  simp [slotAnnotation?, parameterAnnotation?, after?, List.isPrefixOf?]

namespace Legible
variable (h : p.Legible c ends)
include h

/-- The lines of the two classes hold the annotations that are theirs, and no others. -/
theorem annotations_lines : Target.annotations p.lines = p.annotations := by
  have hslot : ∀ m ∈ p.members, IsNameLike m.slot := fun m hm =>
    isNameLike_of_isWord (h.names_isWord m hm).slot
  have hname : ∀ m ∈ p.members, IsNameLike m.name := fun m hm =>
    isNameLike_of_isWord (h.names_isWord m hm)
  have hsetters : ((p.members.flatMap p.setterTexts).flatMap MethodText.lines).filterMap annotation? =
      p.members.flatMap HintedMember.parameterHints := by
    rw [List.flatMap_assoc, List.filterMap_flatMap]
    exact List.flatMap_congr fun m hm =>
      annotations_setterTexts (h.methods m hm) (hslot m hm) h.builder_isNameLike
  have hshallow (name : String) : annotation? ("class " ++ name ++ ":") = none :=
    annotation?_of_shallow (by simp)
  have hdecorator : annotation? "@_dataclass" = none := annotation?_of_shallow (by decide)
  have hrecord := annotations_recordBody hname h.factory_isNameLike
  have hinitial := annotations_initializerText hslot
  have hbuild := annotations_buildText h.buildMethod_isNameLike
  rw [← annotations_nonempty, filter_lines]
  unfold Target.annotations at hrecord hinitial hbuild ⊢
  simp [bodies, methodTexts, ClassPair.annotations, hdecorator, hshallow, annotation?_slotsLine,
    hrecord, hinitial, hsetters, hbuild]

end Legible

end ClassPair

section Members
variable {names : List String} {m : HintedMember}

theorem Renders.sequenceHint (h : Renders names [m.valueHint]) : Renders names [m.sequenceHint] := by
  have hlist : Renders names ["list" ++ "[" ++ ", ".intercalate [m.valueHint] ++ "]"] :=
    h.bracketed (by simp) (by decide +kernel) (by decide)
  exact hlist

theorem Renders.slotHint (h : Renders names [m.valueHint]) : Renders names [m.slotHint] := by
  have hoptional : Renders names ["Optional" ++ "[" ++ ", ".intercalate [m.valueHint] ++ "]"] :=
    h.bracketed (by simp) (by decide +kernel) (by decide)
  unfold HintedMember.slotHint
  split
  · exact h.sequenceHint
  · exact hoptional

/-- The hints of a member render the types that they stand for. -/
structure HintedMember.Rendered (m : HintedMember) : Prop where
  declared : Renders (hintNames m.declared) [m.declaredHint]
  value : Renders (hintNames m.valueType) [m.valueHint]

/-- All types of the members do without reserved words. -/
def FreeTypes (members : List Member) : Prop :=
  ∀ m ∈ members, ∀ name ∈ hintNames m.declared ++ hintNames m.valueType, name ∉ reservedWords

end Members

namespace ClassPair
variable {p : ClassPair}

theorem renders_of_mem_annotations (h : ∀ m ∈ p.members, m.Rendered) {s : String}
    (hs : s ∈ p.annotations) :
    ∃ m ∈ p.members, ∃ t ∈ [m.declared, m.valueType], Renders (hintNames t) [s] := by
  rcases List.mem_append.mp hs with hs | hs
  · rcases List.mem_append.mp hs with hs | hs
    · obtain ⟨m, hm, rfl⟩ := List.mem_map.mp hs
      exact ⟨m, hm, m.declared, by simp, (h m hm).declared⟩
    · obtain ⟨m, hm, rfl⟩ := List.mem_map.mp hs
      exact ⟨m, hm, m.valueType, by simp, (h m hm).value.slotHint⟩
  · obtain ⟨m, hm, hs⟩ := List.mem_flatMap.mp hs
    refine ⟨m, hm, m.valueType, by simp, ?_⟩
    rcases List.mem_cons.mp hs with rfl | hs
    · exact (h m hm).value
    · split at hs
      · rw [List.mem_singleton.mp hs]
        exact (h m hm).value.sequenceHint
      · cases hs

theorem annotations_iff (h : ∀ m ∈ p.members, m.Rendered) :
    (∀ s ∈ p.annotations, WellFormed s) ↔ FreeTypes (p.members.map HintedMember.toMember) := by
  simp only [FreeTypes, List.forall_mem_map, List.forall_mem_append]
  constructor
  · intro hall m hm
    have hdeclared : m.declaredHint ∈ p.annotations := by
      simpa [annotations] using .inl ⟨m, hm, rfl⟩
    have hvalue : m.valueHint ∈ p.annotations := by
      simp only [annotations, List.mem_append, List.mem_flatMap]
      exact .inr ⟨m, hm, List.mem_cons_self⟩
    exact ⟨(h m hm).declared.wellFormed_iff.2.mp (hall _ hdeclared),
      (h m hm).value.wellFormed_iff.2.mp (hall _ hvalue)⟩
  · intro hfree s hs
    obtain ⟨m, hm, t, ht, hr⟩ := renders_of_mem_annotations h hs
    refine hr.wellFormed_iff.2.mpr ?_
    rcases List.mem_cons.mp ht with rfl | ht
    · exact (hfree m hm).1
    · rw [List.mem_singleton.mp ht]
      exact (hfree m hm).2

theorem rendered_of_derive {c : Config} {file : Option String} {d : Declaration}
    (hmap : KeepsReserved c.typeMap) (hd : d.FromSource) (h : derive c file d = .ok p) :
    ∀ m ∈ p.members, m.Rendered := by
  intro m hm
  have hfor : p.IsFor c d := isFor_of_derive h
  obtain ⟨hdeclared, hvalue⟩ := hd.members_written hfor.members m.toMember (List.mem_map_of_mem hm)
  obtain ⟨hdh, hvh⟩ := hints_of_derive h m hm
  obtain ⟨_, hds, hdr⟩ := hmap.invariant.exists_hint hdeclared
  obtain ⟨_, hvs, hvr⟩ := hmap.invariant.exists_hint hvalue
  cases hdh.symm.trans hds
  cases hvh.symm.trans hvs
  exact ⟨hdr, hvr⟩

end ClassPair

section Modules
variable {ends : Char → Bool}

/-- Lines, each with a line feed behind it. -/
def unlines : List String → String
  | [] => ""
  | l :: ls => l ++ ("\n" ++ unlines ls)

theorem unlines_append (ls ms : List String) : unlines (ls ++ ms) = unlines ls ++ unlines ms := by
  induction ls with
  | nil => simp [unlines]
  | cons l ls ih => simp [unlines, ih, String.append_assoc]

theorem unlines_eq {ls : List String} (hne : ls ≠ []) :
    unlines ls = "\n".intercalate ls ++ "\n" := by
  induction ls with
  | nil => exact absurd rfl hne
  | cons l ls ih =>
    cases ls with
    | nil => simp [unlines]
    | cons m ls =>
      rw [unlines, ih (by simp), String.intercalate_cons_cons]
      simp only [String.append_assoc]

def headerLines : List String :=
  ["# Generated by strict-builder. Do not edit.", "from __future__ import annotations", "",
    "from dataclasses import dataclass as _dataclass", "from typing import Optional", "",
    "from strict_builder.runtime import MissingFieldError as _MissingFieldError"]

theorem header_eq : header = unlines headerLines := by
  decide +kernel

/-- The lines of a module. -/
def moduleLines (pairs : List ClassPair) : List String :=
  headerLines ++ pairs.flatMap fun p => "" :: "" :: p.lines

theorem moduleText_eq_unlines (pairs : List ClassPair) :
    moduleText pairs = unlines (moduleLines pairs) := by
  have hpair (p : ClassPair) : "\n\n" ++ p.text = unlines ("" :: "" :: p.lines) := by
    have hne : p.lines ≠ [] := by simp [ClassPair.lines, ClassPair.recordLines]
    rw [ClassPair.text, unlines, unlines, ← unlines_eq hne]
    simp [← String.append_assoc]
  rw [moduleText_eq, header_eq, moduleLines, unlines_append]
  congr 1
  induction pairs with
  | nil => rfl
  | cons p pairs ih =>
    rw [List.map_cons, String.join_cons, hpair, ih, List.flatMap_cons, unlines_append]

theorem pieces_moduleText (hends : LineEnds ends) {pairs : List ClassPair}
    (h : ∀ p ∈ pairs, ∀ l ∈ p.lines, Unbroken ends l) :
    pieces ends (moduleText pairs) = moduleLines pairs ++ [""] := by
  have hne : moduleLines pairs ≠ [] := by simp [moduleLines, headerLines]
  have hheader : ∀ l ∈ headerLines, l.toList.all (!isLineBreak ·) = true := by decide
  have hempty : Unbroken ends "" := hends.unbroken_literal (by decide)
  rw [moduleText_eq_unlines, unlines_eq hne, pieces_joined hends hne]
  refine List.forall_mem_append.mpr ⟨fun l hl => ?_, fun l hl => ?_⟩
  · exact hends.unbroken_literal (hheader l hl)
  · obtain ⟨p, hp, hl⟩ := List.mem_flatMap.mp hl
    exact List.forall_mem_cons.mpr ⟨hempty, List.forall_mem_cons.mpr ⟨hempty, h p hp⟩⟩ l hl

/-- The annotations in the text of a module are those of its classes. -/
theorem annotations_moduleText {c : Config} (hends : LineEnds ends) {pairs : List ClassPair}
    (h : ∀ p ∈ pairs, p.Legible c ends) :
    annotations (pieces ends (moduleText pairs)) = pairs.flatMap ClassPair.annotations := by
  have hheader : headerLines.filterMap annotation? = [] := by
    have hshallow : ∀ l ∈ headerLines, l.toList.head? ≠ some '\t' := by decide
    exact List.filterMap_eq_nil_iff.mpr fun l hl => annotation?_of_shallow (hshallow l hl)
  have hempty : annotation? "" = none := annotation?_of_shallow (by simp)
  have hpairs : (pairs.flatMap fun p => "" :: "" :: p.lines).filterMap annotation? =
      pairs.flatMap ClassPair.annotations := by
    rw [List.filterMap_flatMap]
    refine List.flatMap_congr fun p hp => ?_
    rw [List.filterMap_cons_none hempty, List.filterMap_cons_none hempty]
    exact (h p hp).annotations_lines
  rw [pieces_moduleText hends fun p hp => ClassPair.Legible.unbroken_lines hends (h p hp)]
  simp [annotations, moduleLines, hheader, hpairs, hempty]

/-- An annotation in a module is well formed if and only if no name in it is a reserved word. All of
them are exactly if this holds of the types that the members of the records stand for. -/
theorem generate_annotations (hends : LineEnds ends) {items : List Item}
    (hs : ∀ item ∈ items, item.declaration.FromSource) {text : String}
    (h : generate .default items = .ok text) :
    (∃ pairs, classes .default items = .ok pairs ∧
      annotations (pieces ends text) = pairs.flatMap ClassPair.annotations) ∧
    (∀ s ∈ annotations (pieces ends text),
      (WellFormed s ↔ ∀ word ∈ words s, word ∉ reservedWords)) ∧
    ((∀ s ∈ annotations (pieces ends text), WellFormed s) ↔
      ∀ item ∈ items, ∃ members, Config.default.members item.declaration = .ok members ∧
        FreeTypes members) := by
  obtain ⟨pairs, hclasses, rfl⟩ := generate_eq_ok_iff.mp h
  have hall : items.Forall₂ (fun item p => item.declaration.FromSource ∧
      derive .default item.file item.declaration = .ok p) pairs :=
    (List.forall₂_and_left _ _).mpr ⟨hs, (classes_eq_ok_iff.mp hclasses).1⟩
  have hpairs {Q : ClassPair → Prop} (hq : ∀ item p, item.declaration.FromSource ∧
      derive .default item.file item.declaration = .ok p → Q p) : ∀ p ∈ pairs, Q p :=
    (forall_iff_of_forall₂ (P := fun _ => True) hall fun item p hp =>
      ⟨fun _ => hq item p hp, fun _ => trivial⟩).mp fun _ _ => trivial
  have hmap : ∀ entry ∈ Config.default.typeMap, Unbroken ends entry.2 := by
    have hplain : ∀ entry ∈ TypeMap.default, entry.2.toList.all (!isLineBreak ·) = true := by decide
    exact fun entry he => hends.unbroken_literal (hplain entry he)
  have hlegible : ∀ p ∈ pairs, p.Legible .default ends :=
    hpairs fun _ _ hp => ClassPair.legible_of_derive hends hmap hp.1 hp.2
  have hrendered : ∀ p ∈ pairs, ∀ m ∈ p.members, m.Rendered :=
    hpairs fun _ _ hp => ClassPair.rendered_of_derive keepsReserved_default hp.1 hp.2
  rw [annotations_moduleText hends hlegible]
  refine ⟨⟨pairs, hclasses, rfl⟩, fun s hs => ?_, ?_⟩
  · obtain ⟨p, hp, hs⟩ := List.mem_flatMap.mp hs
    obtain ⟨_, _, _, _, hr⟩ := ClassPair.renders_of_mem_annotations (hrendered p hp) hs
    exact hr.wellFormed_iff.1
  · rw [List.forall_mem_flatMap]
    refine (forall_iff_of_forall₂ hall fun item p hp => ?_).symm
    have hfor : p.IsFor .default item.declaration := ClassPair.isFor_of_derive hp.2
    rw [ClassPair.annotations_iff (ClassPair.rendered_of_derive keepsReserved_default hp.1 hp.2)]
    constructor
    · rintro ⟨members, hm, hfree⟩
      cases hm.symm.trans hfor.members
      exact hfree
    · exact fun hfree => ⟨_, hfor.members, hfree⟩

/-- A record with a field of a type that the code cannot name. -/
def unspeakable : Declaration where
  name := "S"
  fields := [{
    name := "x"
    type := .path [.applied "Vec" [.type (.path [.plain "class"])]]
    location := some ⟨1, 12⟩ }]
  location := some ⟨1, 1⟩

theorem unspeakable_fromSource : unspeakable.FromSource :=
  ⟨"struct S \x7b x: Vec<class> \x7d", [unspeakable], by cbv, List.mem_singleton_self unspeakable⟩

theorem unspeakable_annotations : ∃ text, generate .default [⟨unspeakable, none⟩] = .ok text ∧
    ∃ s ∈ annotations (pieces (· == '\n') text), ¬WellFormed s := by
  have hends : LineEnds (· == '\n') := ⟨rfl, fun ch he => by rw [eq_of_beq he]; decide⟩
  obtain ⟨text, h⟩ : ∃ text, generate .default [⟨unspeakable, none⟩] = .ok text := ⟨_, rfl⟩
  have hs : ∀ item ∈ [(⟨unspeakable, none⟩ : Item)], item.declaration.FromSource := by
    simpa using unspeakable_fromSource
  refine ⟨text, h, ?_⟩
  by_contra hnone
  have hall : ∀ s ∈ annotations (pieces (· == '\n') text), WellFormed s :=
    fun s hs => by_contra fun hf => hnone ⟨s, hs, hf⟩
  obtain ⟨members, hm, hfree⟩ :=
    (generate_annotations hends hs h).2.2.mp hall _ List.mem_cons_self
  cases hm
  exact hfree _ List.mem_cons_self "class" (by decide) (by decide)

end Modules

end RecordBuilders.Target
