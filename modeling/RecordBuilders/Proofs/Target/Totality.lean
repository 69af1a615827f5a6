import RecordBuilders.Proofs.Field.FieldReports
import RecordBuilders.Proofs.Syntax.TreeExistence
import RecordBuilders.Proofs.Syntax.TypeText
import RecordBuilders.Proofs.Target.ModuleProblems
import RecordBuilders.Syntax.SourceFile

/-! Nothing fails on the way from a source text to a module, except in the ways that are reported and
for lack of room: a text is read or refused for a syntax error, and for what was read there is a
module or a list of errors. Main result: `source_reported`. -/
namespace RecordBuilders
open Syntax Target Concrete Grammar Lexer

/-- The fields of a record have names, so that none is refused for the lack of one. -/
theorem Config.classify_ne_unnamed {c : Config} {d : Declaration} {fields : List Field}
    (h : d.recordFields = .ok fields) : ∀ f ∈ fields, c.classify f ≠ .error .unnamed := by
  intro f hf hc
  obtain ⟨⟨_, hnamed⟩, rfl⟩ := Declaration.recordFields_eq_ok_iff.mp h
  obtain ⟨name, hname, hne⟩ := hnamed f hf
  cases Config.classify_eq_error_iff.mp hc with
  | unnamed unnamed =>
    rw [Config.usableName?_eq_some hname hne] at unnamed
    cases unnamed

section Depth

namespace Syntax

/-- A reference to a reference, and so on, and at last to this type. -/
def TypeExpr.referenced (t : TypeExpr) : Nat → TypeExpr
  | 0 => t
  | n + 1 => .reference none false (t.referenced n)

variable {t : TypeExpr} {ts : List Token}

theorem TypeExpr.nesting_referenced (n : Nat) : (t.referenced n).nesting = t.nesting + n := by
  induction n with
  | zero => rfl
  | succ n ih => rw [referenced, TypeExpr.nesting, ih, Nat.add_assoc]

theorem TypeExpr.text_referenced (n : Nat) :
    (t.referenced n).text = String.ofList (List.replicate n '&') ++ t.text := by
  induction n with
  | zero => simp [referenced]
  | succ n ih =>
    apply String.toList_inj.mp
    simp [referenced, TypeExpr.text, referenceMarks, ih, List.replicate_succ]

/-- The grammar sets no bound on references. -/
theorem exists_typePhrase_referenced (ht : TypePhrase ts t) (hg : AllGenuine ts) (n : Nat) :
    ∃ us, TypePhrase us (t.referenced n) ∧ AllGenuine us := by
  induction n with
  | zero => exact ⟨ts, ht, hg⟩
  | succ n ih =>
    obtain ⟨us, hus, hgenuine⟩ := ih
    refine ⟨_, .reference (p := {}) .absent .absent hus, ?_⟩
    exact List.forall_mem_cons.mpr ⟨Lexeme.genuine_symbol .ampersand, hgenuine⟩

/-- A source text with one field, whose type is a reference to a reference, and so on. -/
def referencesText (n : Nat) : String :=
  "struct S \x7b f: " ++ String.ofList (List.replicate n '&') ++ "T \x7d"

/-- Texts of any depth are read. -/
theorem exists_parse_referencesText (n : Nat) : ∃ d, parse (referencesText n) = .ok [d] ∧
    ∀ depth, depth ≤ n → d.nestsWithin depth = false := by
  have htype : TypePhrase [⟨.name "T", {}⟩] (.path [.plain "T"]) := .path .plain .nil
  have hgenuine : AllGenuine [⟨.name "T", {}⟩] :=
    List.forall_mem_singleton.mpr (genuine_letter rfl rfl)
  obtain ⟨us, hus, hg⟩ := exists_typePhrase_referenced htype hgenuine n
  obtain ⟨p, f, ⟨q, rfl⟩, hparse⟩ := exists_parse_of_field (spells_typedField hus hg)
  have htext : referencesText n =
      "struct S \x7b " ++ ("f: " ++ (TypeExpr.referenced (.path [.plain "T"]) n).text) ++ " \x7d" := by
    rw [TypeExpr.text_referenced]
    apply String.toList_inj.mp
    simp [referencesText, TypeExpr.text, Segment.texts, Segment.text]
  have hnesting : (TypeExpr.referenced (.path [.plain "T"]) n).nesting = n + 1 := by
    rw [TypeExpr.nesting_referenced, Nat.add_comm]
    rfl
  refine ⟨_, htext ▸ hparse, fun depth hn => ?_⟩
  have hdeep : ¬n + 1 ≤ depth := by omega
  simp [Declaration.nestsWithin, hnesting, hdeep]

end Syntax

end Depth

namespace Target
variable {c : Config} {items : List Item}

/-- What is reported of an item are errors. -/
theorem isError_of_mem_diagnostics {o : Item × Outcome} {x : Diagnostic}
    (ho : o.2 = .tried (derive c o.1.file o.1.declaration) ∨ o.2.IsNaming)
    (hx : x ∈ o.2.diagnostics o.1) : x.isError = true := by
  obtain ⟨item, outcome⟩ := o
  cases outcome with
  | duplicate first =>
    rw [List.mem_singleton.mp hx]
    exact Issue.isError_diagnostic _ _
  | clash clashes =>
    obtain ⟨clash, _, rfl⟩ := List.mem_map.mp hx
    exact Issue.isError_diagnostic _ _
  | tried result =>
    have hd : result = derive c item.file item.declaration := by
      rcases ho with ho | ho
      · exact Outcome.tried.inj ho
      · exact absurd ho id
    cases result with
    | ok pair => cases hx
    | error refusal =>
      cases refusal with
      | unhinted fault => cases hx
      | problems ds =>
        obtain ⟨issues, _, rfl⟩ := derive_eq_problems_iff.mp hd.symm
        obtain ⟨issue, _, rfl⟩ := List.mem_map.mp hx
        exact Issue.isError_diagnostic _ _

/-- A text, or diagnostics with an error among them. -/
inductive Reported : Except Refusal String → Prop
  | text (text : String) : Reported (.ok text)
  | problems {ds : Diagnostics} {x : Diagnostic} (mem : x ∈ ds) (error : x.severity = "error") :
      Reported (.error (.problems ds))

/-- Parsed declarations make a module, or errors are reported. -/
theorem reported_generate (hs : ∀ item ∈ items, item.declaration.FromSource) :
    Reported (generate c items) := by
  cases hg : generate c items with
  | ok text => exact .text text
  | error r =>
    obtain ⟨hne, rfl⟩ := (generate_eq_error_iff hs).mp hg
    obtain ⟨x, hx⟩ := List.exists_mem_of_ne_nil _ hne
    obtain ⟨o, ho, hxo⟩ := List.mem_flatMap.mp hx
    have hsettled : Settled c [] [] := by simp [Settled]
    have herror : x.isError = true :=
      isError_of_mem_diagnostics (mem_outcomesFrom hsettled o ho) hxo
    exact .problems hx (beq_iff_eq.mp herror)

/-- There is no room for a module only if a declaration is deep. -/
theorem exists_deep_of_generateOn {s : Stack} {e : StackOverflow}
    (h : generateOn s c items = .error e) :
    ∃ item ∈ items, item.declaration.nestsWithin s.depth = false := by
  obtain ⟨o, ho, hfull⟩ := generateOn_eq_error_iff.mp h
  have hmem : o.1 ∈ (outcomes c items).map Prod.fst := List.mem_map_of_mem ho
  rw [outcomes, map_fst_outcomesFrom (by simp [Settled])] at hmem
  exact ⟨o.1, hmem, deep_of_hasRoom hfull⟩

/-- Nothing is missing in a tree of a source text, and what is built from it is what the text is read
as. A text without a tree is refused for a syntax error. In the declarations no type lacks a part, no
field of a record lacks a name, and whatever files they are put down to, they make a module or errors
are reported. All this is so unless there is no room for it, and there is as long as nothing is
nested too deep. -/
theorem source_reported (s : Stack) (c : Config) (source : String) :
    (∀ t, IsTreeOf source t → ∃ ds, buildDeclarations t = .ok ds) ∧
    (∀ ds, parse source = .ok ds ↔ ∃ t, IsTreeOf source t ∧ buildDeclarations t = .ok ds) ∧
    ((∃ e, parseOn s source = .ok (.error e) ∧ ∀ t, ¬IsTreeOf source t) ∨
      ∃ ds, parse source = .ok ds ∧ (parseOn s source = .ok (.ok ds) ∨
        parseOn s source = .error {} ∧ ∃ d ∈ ds, d.nestsWithin s.depth = false)) ∧
    ∀ ds, parse source = .ok ds →
      (∀ d ∈ ds, (∀ f ∈ d.fields, f.type.Written ∧ ∃ text, hint c.typeMap f.type = .ok text) ∧
        ∀ fields, d.recordFields = .ok fields → ∀ f ∈ fields, c.classify f ≠ .error .unnamed) ∧
      ∀ items : List Item, items.map Item.declaration = ds →
        (∃ r, generateOn s c items = .ok r ∧ Reported r) ∨
          generateOn s c items = .error {} ∧ ∃ d ∈ ds, d.nestsWithin s.depth = false := by
  refine ⟨fun t ht => ?_, fun ds => parse_eq_ok_iff_build, ?_, fun ds hp =>
    ⟨fun d hd => ⟨fun f hf => ?_, ?_⟩, ?_⟩⟩
  · obtain ⟨ds, hds, _⟩ := parse_of_isTreeOf ht
    exact ⟨ds, hds⟩
  · cases hp : parse source with
    | error e =>
      refine Or.inl ⟨e, parseOn_eq_ok_error_iff.mpr hp, fun t ht => ?_⟩
      obtain ⟨ds, _, hds⟩ := parse_of_isTreeOf ht
      cases hp.symm.trans hds
    | ok ds =>
      refine Or.inr ⟨ds, rfl, ?_⟩
      by_cases hroom : ∀ d ∈ ds, s.builds d = true
      · exact Or.inl (parseOn_eq_ok_ok_iff.mpr ⟨hp, hroom⟩)
      · obtain ⟨d, hd, hfull⟩ : ∃ d ∈ ds, s.builds d = false := by simpa using hroom
        exact Or.inr ⟨parseOn_eq_error_iff.mpr ⟨ds, hp, d, hd, hfull⟩, d, hd,
          Stack.deep_of_builds hfull⟩
  · have hwritten := written_of_parse hp d hd f hf
    exact ⟨hwritten, exists_hint_of_written c.typeMap hwritten⟩
  · intro fields hfields
    exact Config.classify_ne_unnamed hfields
  · rintro items rfl
    have hs : ∀ item ∈ items, item.declaration.FromSource := fun item hi =>
      ⟨source, _, hp, List.mem_map_of_mem hi⟩
    cases hg : generateOn s c items with
    | ok r =>
      refine Or.inl ⟨r, rfl, ?_⟩
      rw [← (generateOn_eq_ok_iff.mp hg).1]
      exact reported_generate hs
    | error e =>
      obtain ⟨item, hi, hdeep⟩ := exists_deep_of_generateOn hg
      exact Or.inr ⟨rfl, item.declaration, List.mem_map_of_mem hi, hdeep⟩

/-- An enum is read, and reported as an error. -/
theorem source_reported_enum : ∃ t ds problems, IsTreeOf "enum E \x7b\x7d" t ∧
    buildDeclarations t = .ok ds ∧
    generateOn (.ofDepth 1000) .default (ds.map fun d => ⟨d, some "e.rs"⟩) =
      .ok (.error (.problems problems)) ∧
    ∃ x ∈ problems, x.severity = "error" := by
  obtain ⟨_, hbuild, _, hgenerate⟩ := source_reported (.ofDepth 1000) .default "enum E \x7b\x7d"
  have hp : parse "enum E \x7b\x7d" = .ok [(enumAt 1).declaration] := by cbv
  obtain ⟨t, ht, hb⟩ := (hbuild _).mp hp
  obtain ⟨ds, hd⟩ : ∃ ds, generateOn (.ofDepth 1000) .default
      [⟨(enumAt 1).declaration, some "e.rs"⟩] = .ok (.error (.problems ds)) := ⟨_, rfl⟩
  rcases (hgenerate _ hp).2 [⟨(enumAt 1).declaration, some "e.rs"⟩] rfl with
    ⟨r, hr, hreported⟩ | ⟨hfull, _⟩
  · cases hd.symm.trans hr
    cases hreported with
    | problems mem error => exact ⟨t, _, ds, ht, hb, hd, _, mem, error⟩
  · cases hd.symm.trans hfull

/-- Fifty thousand references are read as a type, but not with room for a thousand levels. -/
theorem source_reported_too_deep : (∃ d, parse (referencesText 50000) = .ok [d]) ∧
    parseOn (.ofDepth 1000) (referencesText 50000) = .error {} := by
  obtain ⟨d, hparse, hdeep⟩ := exists_parse_referencesText 50000
  have hfull : (Stack.ofDepth 1000).builds d = false := hdeep 1000 (by decide)
  exact ⟨⟨d, hparse⟩, parseOn_eq_error_iff.mpr ⟨_, hparse, d, List.mem_singleton_self d, hfull⟩⟩

end Target

end RecordBuilders
