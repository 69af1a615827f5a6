import RecordBuilders.Proofs.Target.LegiblePairs
import RecordBuilders.Proofs.Target.OutlineParts

/-! The text of the two classes of a record, read back. Main result: whatever the declaration, the
record class has its fields, and the builder class their slots, initial values, methods, checks and
arguments, all of them and in the order of the declaration. -/
namespace RecordBuilders.Target
open Syntax Text Outline

section Indented

theorem Indented.className?_eq {l : String} (h : Indented 1 l) : className? l = none := by
  obtain ⟨depth, text, rfl⟩ := h
  exact className?_line depth text

theorem Indented.methodName?_eq {l : String} (h : Indented 2 l) : methodName? l = none := by
  obtain ⟨depth, text, rfl⟩ := h
  exact methodName?_line depth text

theorem Indented.isSome_after? {l : String} (h : Indented 2 l) : (after? "\t\t" l).isSome := by
  obtain ⟨depth, text, rfl⟩ := h
  simp [after?, line, List.replicate_succ, List.isPrefixOf?]

end Indented

namespace ClassPair
variable {c : Config} {ends : Char → Bool} {p : ClassPair}

theorem indented_bodies : ∀ b ∈ p.bodies, ∀ l ∈ b.2, Indented 1 l := by
  simp only [bodies, List.forall_mem_cons, List.mem_flatMap]
  refine ⟨indented_recordBody, ⟨indented_line 0 1 _, ?_⟩, by simp⟩
  rintro l ⟨t, ht, hl⟩
  exact indented_lines (indented_methodTexts t ht) l hl

theorem methodName?_slotsLine : methodName? p.slotsLine = none := by
  simp [methodName?, after?, slotsLine, line, List.isPrefixOf?]

theorem references_effect {slot effect : String} (hs : IsWord slot) (he : effect ∈ effects) :
    references (line 2 ("self." ++ slot ++ effect)) = [slot] := by
  simp only [effects, List.mem_cons, List.not_mem_nil, or_false] at he
  rcases he with rfl | rfl | rfl
  · exact references_store hs
  · exact references_replace hs
  · exact references_append hs

namespace Legible
variable (h : p.Legible c ends)
include h

theorem member_names : ∀ m ∈ p.members, IsNameLike m.slot ∧ IsNameLike m.name := by
  intro m hm
  have hname : IsWord m.name := h.names_isWord m hm
  exact ⟨isNameLike_of_isWord hname.slot, isNameLike_of_isWord hname⟩

theorem name_isNameLike : ∀ t ∈ p.methodTexts, IsNameLike t.name := by
  intro t ht
  rcases List.mem_cons.mp ht with rfl | ht
  · have hinitializer : IsNameLike "__init__" := isNameLike_literal (by decide)
    exact hinitializer
  rcases List.mem_append.mp ht with ht | ht
  · obtain ⟨m, hm, ht⟩ := List.mem_flatMap.mp ht
    have hmethod : t.name ∈ m.methods := map_name_setterTexts (p := p) m ▸ List.mem_map_of_mem ht
    exact h.methods m hm t.name hmethod
  · rw [List.mem_singleton.mp ht]
    exact h.buildMethod_isNameLike

theorem sections_className? :
    sections className? (p.lines.filter fun l => !l.isEmpty) = p.bodies := by
  have hheads : ∀ b ∈ p.bodies, className? ("class " ++ b.1 ++ ":") = some b.1 := by
    simp only [bodies, List.forall_mem_cons]
    exact ⟨className?_eq (isNameLike_of_isWord h.record_isWord), className?_eq h.builder_isNameLike,
      by simp⟩
  have hdecorator : ∀ l ∈ ["@_dataclass"], className? l = none := by
    simp [className?, after?]
  rw [filter_lines, ← List.singleton_append, sections_append_of_none hdecorator,
    sections_blocks hheads fun b hb l hl => (indented_bodies b hb l hl).className?_eq]
  exact List.map_id _

theorem methods?_eq : methods? (p.slotsLine :: p.methodTexts.flatMap MethodText.lines) =
    some (p.methodTexts.map fun t => (t.name, t.body)) := by
  have hheads : ∀ t ∈ p.methodTexts, methodName? t.heading = some t.name :=
    fun t ht => methodName?_eq (h.name_isNameLike t ht) t.signature
  have hslots : ∀ l ∈ [p.slotsLine], methodName? l = none := by
    rw [List.forall_mem_singleton]
    exact methodName?_slotsLine
  have hsections : sections methodName? (p.slotsLine :: p.methodTexts.flatMap MethodText.lines) =
      p.methodTexts.map fun t => (t.name, t.body) := by
    rw [← List.singleton_append, sections_append_of_none hslots]
    exact sections_blocks hheads fun t ht l hl => (indented_methodTexts t ht l hl).methodName?_eq
  have hdeeper : ∀ t ∈ p.methodTexts, ∀ l ∈ t.body, (after? "\t\t" l).isSome :=
    fun t ht l hl => (indented_methodTexts t ht l hl).isSome_after?
  rw [methods?, hsections, if_pos]
  simpa only [List.all_eq_true, List.forall_mem_map] using hdeeper

theorem slots?_eq : slots? ((p.slotsLine :: p.methodTexts.flatMap MethodText.lines).takeWhile
    fun l => (methodName? l).isNone) = some (p.members.map fun m => m.slot) := by
  have hinitializer : methodName? p.initializerText.heading = some "__init__" :=
    methodName?_eq (h.name_isNameLike p.initializerText List.mem_cons_self) _
  have htuple : p.slotsLine = "\t__slots__ = " ++ slotTuple (p.members.map fun m => m.slot) := by
    rw [← String.toList_inj]
    simp [slotsLine, line]
  have hslots : ∀ slot ∈ p.members.map fun m => m.slot, IsNameLike slot :=
    List.forall_mem_map.mpr fun m hm => (h.member_names m hm).1
  rw [List.takeWhile_cons_of_pos (by rw [methodName?_slotsLine]; rfl), methodTexts, List.flatMap_cons,
    MethodText.lines, List.cons_append, List.takeWhile_cons_of_neg (by simp [hinitializer]), slots?,
    htuple, after?_append]
  exact tupleItems?_slotTuple hslots

theorem setters_eq : (p.members.flatMap p.setterTexts).map
    (fun t => (t.name, t.body.flatMap references)) =
      p.members.flatMap fun m => m.methods.map fun method => (method, [m.slot]) := by
  rw [List.map_flatMap]
  refine List.flatMap_congr fun m hm => ?_
  rw [← map_name_setterTexts (p := p), List.map_map]
  refine List.map_congr_left fun t ht => ?_
  obtain ⟨parameterHint, _, effect, he, hsetter⟩ := exists_of_mem_setterTexts ht
  have hslot : IsWord m.slot := (h.names_isWord m hm).slot
  rw [hsetter]
  simp [setterText, references_effect hslot he, references_return]

theorem arguments?_eq :
    arguments? p.record p.callLines = some (p.members.map fun m => (m.name, [m.slot])) := by
  unfold callLines
  split
  · next hempty =>
    rw [List.isEmpty_iff.mp hempty]
    exact arguments?_none p.record
  · next hne =>
    rw [arguments?_lines p.record (by simpa using hne)]
    exact mapM_read fun m hm => argument?_argumentLine (h.names_isWord m hm)

theorem leadingChecks_eq : leadingChecks p.buildText.body =
    ((p.members.filter fun m => m.isRequired).map fun m => (m.slot, m.name), p.callLines) := by
  refine leadingChecks_checkLines h.member_names ?_
  unfold callLines
  split
  · exact leadingChecks_return _ _
  · exact leadingChecks_return _ _

theorem fields?_eq :
    fields? p.recordBody = some (p.members.map fun m => (m.name, m.declaredHint)) :=
  fields?_fieldLines (fun m hm => (h.member_names m hm).2) _

theorem initials?_eq : initials? p.initializerText.body =
    some (p.members.map fun m => (m.slot, initialValue m.toMember)) :=
  initials?_initialLines fun m hm => (h.member_names m hm).1

/-- What the lines of the two classes are found to say. -/
theorem read?_lines : read? p.lines =
    some (.due c p.record (p.members.map HintedMember.toMember)
      (p.members.map HintedMember.declaredHint)) := by
  have hmethods : p.methodTexts.map (fun t => (t.name, t.body)) =
      ("__init__", p.initializerText.body) ::
        ((p.members.flatMap p.setterTexts).map (fun t => (t.name, t.body)) ++
          [(p.buildMethod, p.buildText.body)]) := by
    simp [methodTexts, initializerText, buildText]
  rw [read?, h.sections_className?, bodies]
  simp only [ofBodies?, h.fields?_eq, h.slots?_eq, h.methods?_eq, hmethods, h.initials?_eq,
    h.leadingChecks_eq, h.arguments?_eq, Option.bind_eq_bind, Option.bind_some,
    List.getLast?_concat, List.dropLast_concat, List.map_map, if_true, Function.comp_def,
    h.setters_eq]
  -- What is left is that `due` goes by the members and their hints apart.
  simp [due, h.builder, h.buildMethod, List.zip_map', List.filter_map, List.flatMap_map,
    Function.comp_def]

end Legible

theorem read?_text (hends : LineEnds ends) (h : p.Legible c ends) :
    read? (pieces ends p.text) = some (.due c p.record (p.members.map HintedMember.toMember)
      (p.members.map HintedMember.declaredHint)) := by
  have hlines : pieces ends p.text = p.lines ++ [""] :=
    pieces_joined hends (by simp [lines, recordLines]) (h.unbroken_lines hends)
  rw [← h.read?_lines, hlines, read?, List.filter_append]
  simp [read?]

end ClassPair

/-- The text of the two classes says all that is due to the fields of the declaration, in their order,
and nothing else. Readers may differ in which characters end a line; the texts that the configuration
puts in place of types must not have any of these. -/
theorem derive_outline {c : Config} {ends : Char → Bool} {file : Option String} {d : Declaration}
    {p : ClassPair} (hends : LineEnds ends) (hmap : ∀ entry ∈ c.typeMap, Unbroken ends entry.2)
    (hd : d.FromSource) (h : derive c file d = .ok p) :
    ∃ members hints,
      d.fields.Forall₂ (fun f m =>
        c.classify f = .ok m ∧ f.name = some m.name ∧ m.declared = f.type) members ∧
      members.Forall₂ (fun m s => hint c.typeMap m.declared = .ok s) hints ∧
      Outline.read? (pieces ends p.text) = some (.due c d.name members hints) := by
  have hfor : p.IsFor c d := ClassPair.isFor_of_derive h
  have hlegible : p.Legible c ends := ClassPair.legible_of_derive hends hmap hd h
  refine ⟨p.members.map HintedMember.toMember, p.members.map HintedMember.declaredHint, ?_, ?_, ?_⟩
  · exact (Config.classify_of_members hfor.members).imp fun _ _ hm =>
      ⟨hm, Config.name_of_classify hm, Config.declared_of_classify hm⟩
  · rw [List.forall₂_map_left_iff, List.forall₂_map_right_iff, List.forall₂_same]
    exact fun m hm => (ClassPair.hints_of_derive h m hm).1
  · rw [ClassPair.read?_text hends hlegible, hfor.record]

/-- A record with a field in each of the three roles. -/
def team : Declaration where
  name := "Team"
  fields := [
    { name := some "name"
      type := .path [.plain "String"]
      location := some ⟨1, 15⟩ },
    { name := some "members"
      type := .path [.applied "Vec" [.type (.path [.plain "String"])]]
      annotations := [{
        path := ["builder"]
        input := .arguments [.word "each", .punct "=", .literal "\"member\""]
        location := some ⟨1, 29⟩ }]
      location := some ⟨1, 57⟩ },
    { name := some "lead"
      type := .path [.applied "Option" [.type (.path [.plain "u8"])]]
      location := some ⟨1, 79⟩ }]
  location := some ⟨1, 1⟩

theorem team_fromSource : team.FromSource :=
  ⟨"struct Team \x7b name: String, #[builder(each = \"member\")] members: Vec<String>, " ++
      "lead: Option<u8> \x7d",
    [team], by cbv, List.mem_singleton_self team⟩

theorem team_outline : ∃ p, derive .default none team = .ok p ∧
    Outline.read? (pieces (· == '\n') p.text) = some {
      record := "Team"
      fields := [("name", "str"), ("members", "list[str]"), ("lead", "Optional[int]")]
      builder := "TeamBuilder"
      slots := ["_name", "_members", "_lead"]
      initial := [("_name", "None"), ("_members", "[]"), ("_lead", "None")]
      setters := [("name", ["_name"]), ("member", ["_members"]), ("members", ["_members"]),
        ("lead", ["_lead"])]
      build := "build"
      checks := [("_name", "name")]
      arguments := [("name", ["_name"]), ("members", ["_members"]), ("lead", ["_lead"])] } := by
  have hderive : ∃ p, derive .default none team = .ok p := ⟨_, rfl⟩
  have hends : LineEnds (· == '\n') := ⟨rfl, fun ch he => by rw [eq_of_beq he]; decide⟩
  obtain ⟨p, hp⟩ := hderive
  obtain ⟨members, hints, hm, hh, hread⟩ := derive_outline hends (by decide) team_fromSource hp
  refine ⟨p, hp, hread.trans ?_⟩
  rcases hm with _ | ⟨⟨hname, _⟩, _ | ⟨⟨hmembers, _⟩, _ | ⟨⟨hlead, _⟩, _ | _⟩⟩⟩
  cases hname
  cases hmembers
  cases hlead
  rcases hh with _ | ⟨hname, _ | ⟨hmembers, _ | ⟨hlead, _ | _⟩⟩⟩
  cases hname
  cases hmembers
  cases hlead
  rfl

end RecordBuilders.Target
