import RecordBuilders.Proofs.Field.Record
import RecordBuilders.Proofs.Success

/-! What is reported of a declaration. Each field is looked at alone: it makes a member, or a
diagnostic that tells its name. Behind these diagnostics come those of the names that the members
have. There are members only if there is nothing to report. -/
namespace RecordBuilders
open Syntax Text

theorem RecordFault.category_issue (fault : RecordFault) : fault.issue.category = .structural := by
  cases fault <;> rfl

theorem Origin.ofPosition?_inj {p q : Option Position}
    (h : Origin.ofPosition? p = .ofPosition? q) : p = q := by
  cases p with
  | none => cases q <;> simp [Origin.ofPosition?] at h ⊢
  | some p =>
    cases q with
    | none => cases h
    | some q =>
      obtain ⟨line, column⟩ := p
      cases h
      rfl

namespace Issue
variable {i : Issue} {p : Option Position} {file : Option String} {x y : Diagnostic}

/-- The place of an issue does not keep its file from being named. -/
theorem file_diagnostic (ho : i.origin = .ofPosition? p) (hf : file ≠ some "") :
    (i.diagnostic file).span.file = file := by
  have hkept : file.filter (!·.isEmpty) = file := by
    cases file with
    | none => rfl
    | some name => simpa using hf
  cases p with
  | none => rw [Issue.diagnostic, ho]; rfl
  | some p => simp [Issue.diagnostic, ho, Origin.ofPosition?, Span.ofOrigin, hkept]

/-- The diagnostic is an error that tells everything about the issue, in the given file. -/
structure ToldBy (file : Option String) (i : Issue) (x : Diagnostic) : Prop where
  message : x.message = i.message
  code : x.code = some i.category.code
  phase : x.phase = some i.category.phase
  severity : x.severity = "error"
  file : x.span.file = file
  place : ∃ p : Option Position, i.origin = .ofPosition? p ∧
    x.span.line = p.map (·.line) ∧ x.span.column = p.map (·.column)
  field : x.field = i.field
  notes : x.notes = i.notes

theorem toldBy_diagnostic (ho : i.origin = .ofPosition? p) (hf : file ≠ some "") :
    i.ToldBy file (i.diagnostic file) where
  message := rfl
  code := rfl
  phase := rfl
  severity := rfl
  file := file_diagnostic ho hf
  place := ⟨p, ho, by rw [Issue.diagnostic, ho]; cases p <;> rfl,
    by rw [Issue.diagnostic, ho]; cases p <;> rfl⟩
  field := rfl
  notes := rfl

/-- An issue can be told in one way only. -/
theorem ToldBy.unique (h : i.ToldBy file x) (h' : i.ToldBy file y) : x = y := by
  obtain ⟨hm, hc, hp, hs, hf, ⟨place, ho, hline, hcolumn⟩, hfield, hn⟩ := h
  obtain ⟨hm', hc', hp', hs', hf', ⟨place', ho', hline', hcolumn'⟩, hfield', hn'⟩ := h'
  obtain rfl : place = place' := Origin.ofPosition?_inj (ho.symm.trans ho')
  obtain ⟨_, _, _, _, ⟨_, _, _⟩, _, _⟩ := x
  obtain ⟨_, _, _, _, ⟨_, _, _⟩, _, _⟩ := y
  dsimp only at *
  subst_vars
  rfl

/-- Issues one after the other are told in one way only, too. -/
theorem forall₂_toldBy_iff {issues : List Issue} {reports : Diagnostics}
    (h : ∀ i ∈ issues, i.ToldBy file (i.diagnostic file)) :
    issues.Forall₂ (ToldBy file) reports ↔ reports = issues.map (Issue.diagnostic file) := by
  constructor
  · intro hall
    induction hall with
    | nil => rfl
    | cons head _ ih =>
      obtain ⟨hfirst, hothers⟩ := List.forall_mem_cons.mp h
      rw [List.map_cons, head.unique hfirst, ih hothers]
  · rintro rfl
    exact List.forall₂_map_right_iff.mpr (List.forall₂_same.mpr h)

end Issue

namespace Config
variable {c : Config} {file : Option String}

/-- The diagnostic of a field that cannot be classified: it tells what the field is refused for when
it is looked at alone, under its name and in the given file. -/
structure Reports (c : Config) (file : Option String) (f : Field) (x : Diagnostic) : Prop where
  alone : ∃ i, c.fieldOutcome f = .error i ∧ i.ToldBy file x
  field : x.field = f.name
  file : x.span.file = file

/-- Fields one after the other, with the members and the diagnostics that they make. -/
inductive Sorts (c : Config) (file : Option String) :
    List Field → List Member → List Diagnostic → Prop where
  | nil : Sorts c file [] [] []
  | member {f : Field} {m : Member} {fields : List Field} {members : List Member}
      {reports : List Diagnostic} (alone : c.fieldOutcome f = .ok m) (name : f.name = some m.name)
      (others : Sorts c file fields members reports) :
      Sorts c file (f :: fields) (m :: members) reports
  | report {f : Field} {x : Diagnostic} {fields : List Field} {members : List Member}
      {reports : List Diagnostic} (alone : Reports c file f x)
      (others : Sorts c file fields members reports) :
      Sorts c file (f :: fields) members (x :: reports)

theorem reports_of_refused {f : Field} {i : Issue} {name : String} (hname : f.name = some name)
    (hne : name ≠ "") (hf : file ≠ some "") (h : c.fieldOutcome f = .error i) :
    c.Reports file f (i.diagnostic file) := by
  obtain ⟨fault, hfault, rfl⟩ := fieldOutcome_eq_error_iff.mp h
  cases classify_eq_error_iff.mp hfault with
  | unnamed unnamed => rw [usableName?_eq_some hname hne] at unnamed; cases unnamed
  | mark _ _ _ => exact ⟨⟨_, h, Issue.toldBy_diagnostic rfl hf⟩, rfl, Issue.file_diagnostic rfl hf⟩
  | notASequence _ _ _ _ =>
    exact ⟨⟨_, h, Issue.toldBy_diagnostic rfl hf⟩, rfl, Issue.file_diagnostic rfl hf⟩

/-- Named fields are sorted into what the collection finds. -/
theorem sorts_classified {fields : List Field} (hf : file ≠ some "")
    (hnamed : ∀ f ∈ fields, ∃ name, f.name = some name ∧ name ≠ "") :
    c.Sorts file fields (c.classified fields)
      ((c.fieldIssues fields).map (Issue.diagnostic file)) := by
  induction fields with
  | nil => exact .nil
  | cons f fields ih =>
    obtain ⟨⟨name, hname, hne⟩, hothers⟩ := List.forall_mem_cons.mp hnamed
    cases h : c.fieldOutcome f with
    | ok m =>
      have hm := name_of_classify (fieldOutcome_eq_ok_iff.mp h)
      simpa [classified, fieldIssues, h, Except.toOption] using Sorts.member h hm (ih hothers)
    | error i =>
      have hreport := reports_of_refused hname hne hf h
      simpa [classified, fieldIssues, h, Except.toOption] using Sorts.report hreport (ih hothers)

theorem Sorts.unique {fields : List Field} {members others : List Member}
    {reports others' : List Diagnostic} (h : c.Sorts file fields members reports)
    (h' : c.Sorts file fields others others') : members = others ∧ reports = others' := by
  induction h generalizing others others' with
  | nil => cases h'; exact ⟨rfl, rfl⟩
  | member alone _ _ ih =>
    cases h' with
    | member alone' _ rest' =>
      rw [alone] at alone'
      cases alone'
      obtain ⟨rfl, rfl⟩ := ih rest'
      exact ⟨rfl, rfl⟩
    | report alone' _ =>
      obtain ⟨i, hi, _⟩ := alone'.alone
      rw [alone] at hi
      cases hi
  | report alone _ ih =>
    obtain ⟨i, hi, htold⟩ := alone.alone
    cases h' with
    | member alone' _ _ =>
      rw [hi] at alone'
      cases alone'
    | report alone' rest' =>
      obtain ⟨j, hj, htold'⟩ := alone'.alone
      cases hi.symm.trans hj
      obtain ⟨rfl, rfl⟩ := ih rest'
      exact ⟨rfl, by rw [htold.unique htold']⟩

/-- What is wrong with the names of members is told in one way. -/
theorem forall₂_nameIssues_iff {d : Declaration} {members : List Member} {reports : Diagnostics}
    (hf : file ≠ some "") : (c.nameIssues d members).Forall₂ (Issue.ToldBy file) reports ↔
      reports = (c.nameIssues d members).map (Issue.diagnostic file) := by
  apply Issue.forall₂_toldBy_iff
  intro i hi
  obtain ⟨clash, _, rfl⟩ := List.mem_map.mp hi
  exact Issue.toldBy_diagnostic rfl hf

/-- If no field is reported, every field makes its member. -/
theorem sorts_nil_iff {fields : List Field} {members : List Member} :
    c.Sorts file fields members [] ↔
      fields.Forall₂ (fun f m => c.fieldOutcome f = .ok m ∧ f.name = some m.name) members := by
  constructor
  · intro h
    generalize hr : ([] : List Diagnostic) = reports at h
    induction h with
    | nil => exact .nil
    | member alone name _ ih => exact .cons ⟨alone, name⟩ (ih hr)
    | report _ _ _ => cases hr
  · intro h
    induction h with
    | nil => exact .nil
    | cons head _ ih => exact .member head.1 head.2 ih

/-- A record has its members exactly if every field makes one and nothing is wrong with their names.
Otherwise it has none, and all is reported that is wrong with a field by itself, in their order, and
then all that is wrong with the names of the others. What is no record is refused for that alone. -/
theorem members_report (c : Config) (d : Declaration) (file : Option String) (hf : file ≠ some "") :
    (d.IsRecord →
      (∀ members, c.members d = .ok members ↔
        d.fields.Forall₂ (fun f m => c.fieldOutcome f = .ok m ∧ f.name = some m.name) members ∧
          c.nameIssues d members = []) ∧
      ∀ problems, (c.members d).mapError (·.map (Issue.diagnostic file)) = .error problems ↔
        problems ≠ [] ∧ ∃ members reports others, c.Sorts file d.fields members reports ∧
          (c.nameIssues d members).Forall₂ (Issue.ToldBy file) others ∧
            problems = reports ++ others) ∧
    (¬d.IsRecord → ∃ x, (c.members d).mapError (·.map (Issue.diagnostic file)) = .error [x] ∧
      x.code = some "E-STRUCT") := by
  refine ⟨fun hd => ?_, fun hd => ?_⟩
  · have hfields : d.recordFields = .ok d.fields :=
      Declaration.recordFields_eq_ok_iff.mpr ⟨hd, rfl⟩
    have hsorts := sorts_classified (c := c) hf hd.2
    refine ⟨fun members => ?_, fun problems => ?_⟩
    · rw [members_eq_ok_iff_of_fields hfields, ← @sorts_nil_iff c file]
      constructor
      · rintro ⟨hissues, hnames, rfl⟩
        rw [hissues] at hsorts
        exact ⟨hsorts, hnames⟩
      · rintro ⟨hall, hnames⟩
        obtain ⟨rfl, hissues⟩ := hall.unique hsorts
        exact ⟨List.map_eq_nil_iff.mp hissues.symm, hnames, rfl⟩
    · rw [mapError_eq_error_iff]
      constructor
      · rintro ⟨issues, hissues, rfl⟩
        rcases members_eq_error_iff.mp hissues with ⟨_, hr, _⟩ | ⟨_, hr, hne, rfl⟩
        · rw [hfields] at hr
          cases hr
        rw [hfields] at hr
        cases hr
        exact ⟨by simpa using hne, _, _, _, hsorts,
          (forall₂_nameIssues_iff hf).mpr rfl, List.map_append⟩
      · rintro ⟨hne, members, reports, others, hall, hothers, rfl⟩
        obtain ⟨rfl, rfl⟩ := hall.unique hsorts
        rw [(forall₂_nameIssues_iff hf).mp hothers] at hne ⊢
        rw [← List.map_append] at hne ⊢
        exact ⟨_, members_eq_error_iff.mpr (.inr ⟨_, hfields, by simpa using hne, rfl⟩), rfl⟩
  · cases hr : d.recordFields with
    | ok fields => exact absurd (Declaration.recordFields_eq_ok_iff.mp hr).1 hd
    | error fault =>
      refine ⟨fault.issue.diagnostic file, ?_, ?_⟩
      · rw [Config.members, hr]
        rfl
      · rw [Issue.diagnostic, fault.category_issue]
        rfl

/-- A struct with a foreign attribute, an annotated field that is no sequence, and two fields with the
same method. -/
def muddled : Declaration where
  name := "S"
  fields := [
    { name := some "x", type := .path [.plain "u8"] },
    { name := some "y", type := .path [.plain "u8"], annotations := [{ path := ["foo"] }] },
    { name := some "zs"
      type := .path [.applied "Vec" [.type (.path [.plain "u8"])]]
      annotations := [marking "x"] },
    { name := some "w", type := .path [.plain "u8"], annotations := [marking "v"] }]
where
  marking (method : String) : Attribute :=
    { path := ["builder"]
      input := .arguments [.word "each", .punct "=", .literal ("\"" ++ method ++ "\"")] }

theorem members_report_muddled : (some "a.rs" ≠ some "") ∧
    ∃ problems, (Config.default.members muddled).mapError (·.map (Issue.diagnostic (some "a.rs"))) =
        .error problems ∧
      problems.map (fun x => (x.code, x.field, x.message)) =
        [(some "E-ATTR", some "y", "expected #[builder(...)] attribute"),
          (some "E-SHAPE", some "w", "expected sequence wrapper for repeated field w"),
          (some "E-NAME", some "zs", "duplicate builder method `x`")] := by
  have hf : some "a.rs" ≠ some "" := by decide
  have hd : muddled.IsRecord := by simp [Declaration.IsRecord, muddled]
  have hproblems := ((members_report .default muddled (some "a.rs") hf).1 hd).2
  have hsorts := sorts_classified (c := .default) hf hd.2
  refine ⟨hf, _, (hproblems _).mpr ⟨?_, _, _, _, hsorts, (forall₂_nameIssues_iff hf).mpr rfl, rfl⟩, ?_⟩
  · decide +kernel
  · decide +kernel

end Config
end RecordBuilders
