import RecordBuilders.Proofs.Target.PairLines
import RecordBuilders.Proofs.Target.SourceHints

/-! The classes of a declaration from a source text are legible: nothing that their lines are made of
ends a line, and what stands for a name in them looks like one. -/
namespace RecordBuilders.Target
open Syntax Text

/-- The declared types and the types of the stored values are rendered as they are by themselves. -/
theorem hints_of_hintMembers {map : TypeMap} {members : List Member} {hinted : List HintedMember}
    (h : hintMembers map members = .ok hinted) :
    ∀ m ∈ hinted,
      hint map m.declared = .ok m.declaredHint ∧ hint map m.valueType = .ok m.valueHint := by
  obtain ⟨declared, hd, h⟩ := bind_eq_ok_iff.mp h
  obtain ⟨values, hv, h⟩ := bind_eq_ok_iff.mp h
  cases h
  obtain ⟨hdl, hd⟩ := mapM_eq_ok_iff.mp hd
  obtain ⟨hvl, hv⟩ := mapM_eq_ok_iff.mp hv
  intro m hm
  obtain ⟨i, hi, rfl⟩ := List.getElem_of_mem hm
  have hlength : i < members.length := by simp at hi; omega
  simp only [List.getElem_zipWith, List.getElem_zip]
  constructor
  · refine hd (members[i], declared[i]) (List.mem_iff_getElem.mpr ⟨i, ?_, List.getElem_zip⟩)
    simp only [List.length_zip]
    omega
  · refine hv (members[i], values[i]) (List.mem_iff_getElem.mpr ⟨i, ?_, List.getElem_zip⟩)
    simp only [List.length_zip]
    omega

namespace ClassPair

/-- Nothing in the two classes would keep a reader from their lines and names. -/
structure Legible (c : Config) (ends : Char → Bool) (p : ClassPair) : Prop extends p.WellNamed c where
  methods : ∀ m ∈ p.members, ∀ method ∈ m.methods, IsNameLike method
  hints : ∀ m ∈ p.members, Unbroken ends m.declaredHint ∧ Unbroken ends m.valueHint

variable {c : Config} {ends : Char → Bool} {p : ClassPair}

theorem hints_of_derive {file : Option String} {d : Declaration} (h : derive c file d = .ok p) :
    ∀ m ∈ p.members, hint c.typeMap m.declared = .ok m.declaredHint ∧
      hint c.typeMap m.valueType = .ok m.valueHint := by
  unfold derive at h
  split at h
  · cases h
  · obtain ⟨hinted, hh, h⟩ := bind_eq_ok_iff.mp (mapError_eq_ok_iff.mp h)
    cases h
    exact hints_of_hintMembers hh

theorem isNameLike_of_methods {d : Declaration} {members : List Member} (hd : d.NamesWords)
    (h : c.members d = .ok members) : ∀ m ∈ members, ∀ method ∈ m.methods, IsNameLike method := by
  intro m hm method hmethod
  have hname : IsNameLike m.name := fun ch hch =>
    isIdentifierPart_of_isWordPart ((Config.isWord_name_of_members hd h m hm).parts ch hch)
  obtain ⟨f, _, hc⟩ := Config.exists_classify_of_members h m hm
  rcases Member.eq_name_or_role_of_mem_methods hmethod with rfl | ⟨_, hr⟩
  · exact hname
  · exact isNameLike_of_isIdentifier (Config.isIdentifier_of_classify hc hr)

theorem legible_of_derive {file : Option String} {d : Declaration} (hends : LineEnds ends)
    (hmap : ∀ entry ∈ c.typeMap, Unbroken ends entry.2) (hd : d.FromSource)
    (h : derive c file d = .ok p) : p.Legible c ends := by
  have hfor : p.IsFor c d := isFor_of_derive h
  have hchars : HintChars c.typeMap fun ch => ends ch = false := by
    refine ⟨hmap, fun ch hch => ?_, fun ch hch => ?_⟩
    · refine hends.unbroken_of_isNameLike (s := String.ofList [ch]) ?_ ch (by simp)
      simpa [IsNameLike] using isIdentifierPart_of_isWordPart hch
    · exact hends.unbroken_literal (s := "[], ()") (by decide) ch hch
  have hunbroken {t : TypeExpr} {text : String} (ht : t.Written)
      (hh : hint c.typeMap t = .ok text) : Unbroken ends text := by
    obtain ⟨other, ho, hq⟩ := hchars.exists_hint ht
    cases hh.symm.trans ho
    exact hq
  refine ⟨hfor.wellNamed hd.namesWords, ?_, ?_⟩
  · intro m hm
    exact isNameLike_of_methods hd.namesWords hfor.members m.toMember (List.mem_map_of_mem hm)
  · intro m hm
    obtain ⟨hdeclared, hvalue⟩ := hd.members_written hfor.members m.toMember (List.mem_map_of_mem hm)
    obtain ⟨hdh, hvh⟩ := hints_of_derive h m hm
    exact ⟨hunbroken hdeclared hdh, hunbroken hvalue hvh⟩

namespace Legible
variable {c : Config} {ends : Char → Bool} {p : ClassPair}

theorem builder_isNameLike (h : p.Legible c ends) : IsNameLike p.builder := by
  intro ch hch
  rw [h.builder, Config.builderName, String.toList_append] at hch
  rcases List.mem_append.mp hch with hch | hch
  · exact isIdentifierPart_of_isWordPart (h.record_isWord.parts ch hch)
  · exact isNameLike_of_isUsable c.builderSuffix_usable ch (by simp [hch])

theorem factory_isNameLike (h : p.Legible c ends) : IsNameLike p.factory :=
  h.factory ▸ isNameLike_of_isUsable c.factoryName_usable

theorem buildMethod_isNameLike (h : p.Legible c ends) : IsNameLike p.buildMethod :=
  h.buildMethod ▸ isNameLike_of_isUsable c.buildMethod_usable

variable (hends : LineEnds ends) (h : p.Legible c ends)
include hends

theorem unbroken_line (depth : Nat) (text : String) :
    Unbroken ends (line depth text) ↔ Unbroken ends text := by
  rw [line, unbroken_append]
  refine and_iff_right ?_
  intro ch hch
  rw [String.toList_ofList] at hch
  rw [List.eq_of_mem_replicate hch]
  exact hends.unbroken_literal (s := "\t") (by decide) '\t' (by decide)

include h

theorem unbroken_name {m : HintedMember} (hm : m ∈ p.members) : Unbroken ends m.name :=
  hends.unbroken_of_isNameLike (isNameLike_of_isWord (h.names_isWord m hm))

theorem unbroken_slot {m : HintedMember} (hm : m ∈ p.members) : Unbroken ends m.slot :=
  hends.unbroken_of_isNameLike (isNameLike_of_isWord (h.names_isWord m hm).slot)

theorem unbroken_recordBody : ∀ l ∈ p.recordBody, Unbroken ends l := by
  have hbuilder := hends.unbroken_of_isNameLike h.builder_isNameLike
  have hfactory := hends.unbroken_of_isNameLike h.factory_isNameLike
  have hfields : ∀ m ∈ p.members, Unbroken ends m.fieldLine := by
    intro m hm
    simp (disch := decide) only [HintedMember.fieldLine, unbroken_line hends, unbroken_append,
      unbroken_name hends h hm, h.hints m hm, hends.unbroken_literal, and_true]
  simp only [recordBody, List.forall_mem_append, List.forall_mem_cons, List.forall_mem_map]
  refine ⟨hfields, ?_⟩
  simp (disch := decide) only [unbroken_line hends, unbroken_append, hbuilder, hfactory,
    hends.unbroken_literal, and_true, true_and]
  simp

theorem unbroken_slotsLine : Unbroken ends p.slotsLine := by
  have hitems : Unbroken ends (", ".intercalate
      ((p.members.map fun m => m.slot).map fun slot => "\"" ++ slot ++ "\"")) := by
    refine forall_mem_intercalate (hends.unbroken_literal (by decide)) ?_
    simp only [List.forall_mem_map]
    intro m hm
    have hslot := unbroken_slot hends h hm
    have hitem : Unbroken ends ("\"" ++ m.slot ++ "\"") := by
      simp (disch := decide) only [unbroken_append, hslot, hends.unbroken_literal, and_true]
    exact hitem
  unfold slotsLine slotTuple
  split
  · simp (disch := decide) only [unbroken_line hends, unbroken_append, hitems, hends.unbroken_literal,
      and_true]
  · simp (disch := decide) only [unbroken_line hends, unbroken_append, hitems, hends.unbroken_literal,
      and_true]

theorem unbroken_initializerText : ∀ l ∈ p.initializerText.lines, Unbroken ends l := by
  have hinitial : ∀ m ∈ p.members, Unbroken ends m.initialLine := by
    intro m hm
    unfold HintedMember.initialLine HintedMember.sequenceHint
    split
    · simp (disch := decide) only [unbroken_line hends, unbroken_append, unbroken_slot hends h hm,
        h.hints m hm, hends.unbroken_literal, and_true]
    · simp (disch := decide) only [unbroken_line hends, unbroken_append, unbroken_slot hends h hm,
        h.hints m hm, hends.unbroken_literal, and_true]
  refine List.forall_mem_cons.mpr ⟨?_, ?_⟩
  · simp (disch := decide) only [MethodText.heading, initializerText, unbroken_line hends,
      hends.unbroken_literal]
  · unfold initializerText
    dsimp only
    split
    · simp (disch := decide) only [unbroken_line hends, List.forall_mem_singleton, hends.unbroken_literal]
    · exact List.forall_mem_map.mpr hinitial

theorem unbroken_setterTexts {m : HintedMember} (hm : m ∈ p.members) :
    ∀ t ∈ p.setterTexts m, ∀ l ∈ t.lines, Unbroken ends l := by
  intro t ht
  have hname : Unbroken ends t.name := by
    have hmethod : t.name ∈ m.methods := map_name_setterTexts (p := p) m ▸ List.mem_map_of_mem ht
    exact hends.unbroken_of_isNameLike (h.methods m hm t.name hmethod)
  have hbuilder := hends.unbroken_of_isNameLike h.builder_isNameLike
  obtain ⟨parameterHint, hp, effect, he, hsetter⟩ := exists_of_mem_setterTexts ht
  have hhint : Unbroken ends parameterHint := by
    rcases List.mem_cons.mp hp with rfl | hp
    · exact (h.hints m hm).2
    · rw [List.mem_singleton.mp hp, HintedMember.sequenceHint]
      simp (disch := decide) only [unbroken_append, h.hints m hm, hends.unbroken_literal, and_true]
  have heffect : Unbroken ends effect := by
    have hplain : ∀ effect ∈ effects, effect.toList.all (!isLineBreak ·) = true := by decide
    exact hends.unbroken_literal (hplain effect he)
  rw [hsetter]
  simp (disch := decide) only [MethodText.lines, MethodText.heading, setterText, List.forall_mem_cons,
    unbroken_line hends, unbroken_append, hname, hbuilder, hhint, heffect, unbroken_slot hends h hm,
    hends.unbroken_literal, and_true, true_and]
  simp

theorem unbroken_buildText : ∀ l ∈ p.buildText.lines, Unbroken ends l := by
  have hrecord := hends.unbroken_of_isNameLike (isNameLike_of_isWord h.record_isWord)
  have hmethod := hends.unbroken_of_isNameLike h.buildMethod_isNameLike
  have hchecks : ∀ m ∈ p.members, ∀ l ∈ m.checkLines, Unbroken ends l := by
    intro m hm
    unfold HintedMember.checkLines
    split
    · simp (disch := decide) only [List.forall_mem_cons, unbroken_line hends, unbroken_append,
        unbroken_slot hends h hm, unbroken_name hends h hm, hends.unbroken_literal, and_true, true_and]
      simp
    · simp
  have harguments : ∀ m ∈ p.members, Unbroken ends m.argumentLine := by
    intro m hm
    unfold HintedMember.argumentLine
    split
    · simp (disch := decide) only [unbroken_line hends, unbroken_append, unbroken_slot hends h hm,
        unbroken_name hends h hm, hends.unbroken_literal, and_true]
    · simp (disch := decide) only [unbroken_line hends, unbroken_append, unbroken_slot hends h hm,
        unbroken_name hends h hm, hends.unbroken_literal, and_true]
  have hcall : ∀ l ∈ p.callLines, Unbroken ends l := by
    unfold callLines
    split
    · simp (disch := decide) only [List.forall_mem_singleton, unbroken_line hends, unbroken_append,
        hrecord, hends.unbroken_literal, and_true]
    · simp (disch := decide) only [List.forall_mem_cons, List.forall_mem_append,
        List.forall_mem_map, unbroken_line hends, unbroken_append, hrecord, hends.unbroken_literal,
        and_true, true_and]
      exact ⟨harguments, by simp⟩
  refine List.forall_mem_cons.mpr ⟨?_, List.forall_mem_append.mpr ⟨?_, hcall⟩⟩
  · simp (disch := decide) only [MethodText.heading, buildText, unbroken_line hends,
      unbroken_append, hrecord, hmethod, hends.unbroken_literal, and_true]
  · intro l hl
    obtain ⟨m, hm, hl⟩ := List.mem_flatMap.mp hl
    exact hchecks m hm l hl

theorem unbroken_bodies : ∀ b ∈ p.bodies, ∀ l ∈ b.2, Unbroken ends l := by
  have hmethods : ∀ t ∈ p.methodTexts, ∀ l ∈ t.lines, Unbroken ends l := by
    intro t ht
    rcases List.mem_cons.mp ht with rfl | ht
    · exact unbroken_initializerText hends h
    rcases List.mem_append.mp ht with ht | ht
    · obtain ⟨m, hm, ht⟩ := List.mem_flatMap.mp ht
      exact unbroken_setterTexts hends h hm t ht
    · rw [List.mem_singleton.mp ht]
      exact unbroken_buildText hends h
  simp only [bodies, List.forall_mem_cons, List.mem_flatMap]
  refine ⟨unbroken_recordBody hends h, ⟨unbroken_slotsLine hends h, ?_⟩, by simp⟩
  rintro l ⟨t, ht, hl⟩
  exact hmethods t ht l hl

theorem unbroken_lines : ∀ l ∈ p.lines, Unbroken ends l := by
  have hheading : ∀ b ∈ p.bodies, Unbroken ends b.1 := by
    simp only [bodies, List.forall_mem_cons]
    exact ⟨hends.unbroken_of_isNameLike (isNameLike_of_isWord h.record_isWord),
      hends.unbroken_of_isNameLike h.builder_isNameLike, by simp⟩
  have hcode : ∀ l ∈ p.lines.filter (fun l => !l.isEmpty), Unbroken ends l := by
    rw [filter_lines]
    refine List.forall_mem_cons.mpr ⟨hends.unbroken_literal (by decide), ?_⟩
    intro l hl
    obtain ⟨b, hb, hl⟩ := List.mem_flatMap.mp hl
    rcases List.mem_cons.mp hl with rfl | hl
    · simp (disch := decide) only [unbroken_append, hheading b hb, hends.unbroken_literal, and_true]
    · exact unbroken_bodies hends h b hb l hl
  intro l hl
  by_cases he : l.isEmpty = true
  · rw [String.isEmpty_iff.mp he]
    exact hends.unbroken_literal (by decide)
  · exact hcode l (List.mem_filter.mpr ⟨hl, by simpa using he⟩)

end Legible
end ClassPair

end RecordBuilders.Target
