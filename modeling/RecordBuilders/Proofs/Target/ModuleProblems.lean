import RecordBuilders.Proofs.Target.SourceHints

/-! The problems of a module. An item whose class names are taken is left at once, before anything
else is looked at. Main result: the problems that a declaration has by itself are among those of the
module if its names are free, and otherwise they are lost. -/
namespace RecordBuilders.Target
open Syntax Text

section Owners

/-- A declaration gets its class names if it shares none with those that have theirs. -/
def claim (c : Config) (owned : List Declaration) (d : Declaration) : List Declaration :=
  if (classClashes c owned d).isEmpty then owned ++ [d] else owned

/-- The declarations that get their class names when items are tried in turn. -/
def owners (c : Config) (items : List Item) : List Declaration :=
  items.foldl (fun owned item => claim c owned item.declaration) []

variable {c : Config} {earlier owned : List Declaration} {d e : Declaration}

theorem not_classesApart_of_name_eq (h : d.name = e.name) : ¬ClassesApart c d e :=
  fun ha => ha List.mem_cons_self (by simp [h])

theorem classesApart_congr_right (h : d.name = e.name) {owner : Declaration} :
    ClassesApart c owner d ↔ ClassesApart c owner e := by
  rw [ClassesApart, ClassesApart, h]

/-- Whatever came earlier shares a class name with an owner, if only because it is one. -/
def Settled (c : Config) (earlier owned : List Declaration) : Prop :=
  ∀ e ∈ earlier, ∃ owner ∈ owned, ¬ClassesApart c owner e

theorem claim_of_free (h : classClashes c owned d = []) : claim c owned d = owned ++ [d] := by
  simp [claim, h]

theorem claim_of_clashes (h : classClashes c owned d ≠ []) : claim c owned d = owned := by
  simp [claim, h]

theorem mem_claim {owner : Declaration} (h : owner ∈ owned) : owner ∈ claim c owned d := by
  unfold claim
  split
  · exact List.mem_append_left _ h
  · exact h

theorem Settled.claim (h : Settled c earlier owned) :
    Settled c (earlier ++ [d]) (claim c owned d) := by
  intro e he
  rcases List.mem_append.mp he with he | he
  · obtain ⟨owner, ho, hs⟩ := h e he
    exact ⟨owner, mem_claim ho, hs⟩
  · rw [List.mem_singleton.mp he]
    by_cases hc : classClashes c owned d = []
    · exact ⟨d, by simp [claim_of_free hc], not_classesApart_of_name_eq rfl⟩
    · rw [classClashes_eq_nil_iff] at hc
      obtain ⟨owner, hc⟩ := not_forall.mp hc
      obtain ⟨ho, hs⟩ := Classical.not_imp.mp hc
      exact ⟨owner, mem_claim ho, hs⟩

/-- A record that was declared before also clashes with an owner. -/
theorem Settled.clashes (h : Settled c earlier owned) (he : e ∈ earlier) (hn : e.name = d.name) :
    classClashes c owned d ≠ [] := by
  obtain ⟨owner, ho, hs⟩ := h e he
  intro hc
  exact hs ((classesApart_congr_right hn).mpr (classClashes_eq_nil_iff.mp hc owner ho))

end Owners

section Outcomes

/-- The item was left because its names are taken. -/
def Outcome.IsNaming : Outcome → Prop
  | .duplicate _ => True
  | .clash clashes => clashes ≠ []
  | .tried _ => False

variable {c : Config} {earlier owned : List Declaration} {item : Item} {items : List Item}

/-- What one item comes to behind those in `earlier`, of which those in `owned` have their names. -/
def outcomeOf (c : Config) (earlier owned : List Declaration) (item : Item) : Outcome :=
  match earlier.find? (·.name == item.declaration.name) with
  | some first => .duplicate first
  | none =>
    match classClashes c owned item.declaration with
    | [] => .tried (derive c item.file item.declaration)
    | clashes => .clash clashes

/-- What one item comes to, and what it leaves for the later ones. -/
theorem outcomesFrom_cons_eq (h : Settled c earlier owned) :
    outcomesFrom c earlier owned (item :: items) = (item, outcomeOf c earlier owned item) ::
      outcomesFrom c (earlier ++ [item.declaration]) (claim c owned item.declaration) items := by
  rw [outcomesFrom, outcomeOf]
  cases hf : earlier.find? (·.name == item.declaration.name) with
  | some first =>
    have hname : first.name = item.declaration.name := by simpa using List.find?_some hf
    rw [claim_of_clashes (h.clashes (List.mem_of_find?_eq_some hf) hname)]
  | none =>
    cases hc : classClashes c owned item.declaration with
    | nil => rw [claim_of_free hc]
    | cons clash clashes => rw [claim_of_clashes (by simp [hc])]

theorem outcomeOf_of_free (h : Settled c earlier owned)
    (hc : classClashes c owned item.declaration = []) :
    outcomeOf c earlier owned item = .tried (derive c item.file item.declaration) := by
  rw [outcomeOf]
  split
  · next first hf =>
    have hname : first.name = item.declaration.name := by simpa using List.find?_some hf
    exact absurd hc (h.clashes (List.mem_of_find?_eq_some hf) hname)
  · rw [hc]

theorem isNaming_outcomeOf (hc : classClashes c owned item.declaration ≠ []) :
    (outcomeOf c earlier owned item).IsNaming := by
  rw [outcomeOf]
  split
  · trivial
  · split
    · next hn => exact absurd hn hc
    · exact hc

theorem outcomesFrom_cons (h : Settled c earlier owned) : ∃ outcome : Outcome,
    outcomesFrom c earlier owned (item :: items) = (item, outcome) ::
      outcomesFrom c (earlier ++ [item.declaration]) (claim c owned item.declaration) items ∧
    (classClashes c owned item.declaration = [] →
      outcome = .tried (derive c item.file item.declaration)) ∧
    (classClashes c owned item.declaration ≠ [] → outcome.IsNaming) :=
  ⟨_, outcomesFrom_cons_eq h, outcomeOf_of_free h, isNaming_outcomeOf⟩

/-- An outcome is what the item comes to by itself, or its names are taken. -/
theorem mem_outcomesFrom (h : Settled c earlier owned) :
    ∀ o ∈ outcomesFrom c earlier owned items,
      o.2 = .tried (derive c o.1.file o.1.declaration) ∨ o.2.IsNaming := by
  induction items generalizing earlier owned with
  | nil => simp [outcomesFrom]
  | cons item items ih =>
    obtain ⟨outcome, ho, htried, hnaming⟩ := @outcomesFrom_cons c earlier owned item items h
    rw [ho]
    refine List.forall_mem_cons.mpr ⟨?_, ih h.claim⟩
    by_cases hc : classClashes c owned item.declaration = []
    · exact Or.inl (htried hc)
    · exact Or.inr (hnaming hc)

theorem map_fst_outcomesFrom (h : Settled c earlier owned) :
    (outcomesFrom c earlier owned items).map Prod.fst = items := by
  induction items generalizing earlier owned with
  | nil => rfl
  | cons item items ih =>
    obtain ⟨outcome, ho, _⟩ := @outcomesFrom_cons c earlier owned item items h
    rw [ho, List.map_cons, ih h.claim]

/-- Whether an item is looked at depends on those before it alone. -/
theorem outcomesFrom_append_cons (h : Settled c earlier owned) (before behind : List Item)
    (item : Item) : ∃ first outcome last,
    outcomesFrom c earlier owned (before ++ item :: behind) = first ++ (item, outcome) :: last ∧
    first.map Prod.fst = before ∧ last.map Prod.fst = behind ∧
    (classClashes c (before.foldl (fun owned item => claim c owned item.declaration) owned)
      item.declaration = [] → outcome = .tried (derive c item.file item.declaration)) ∧
    (classClashes c (before.foldl (fun owned item => claim c owned item.declaration) owned)
      item.declaration ≠ [] → outcome.IsNaming) := by
  induction before generalizing earlier owned with
  | nil =>
    obtain ⟨outcome, ho, htried, hnaming⟩ := @outcomesFrom_cons c earlier owned item behind h
    exact ⟨[], outcome, _, ho, rfl, map_fst_outcomesFrom h.claim, htried, hnaming⟩
  | cons other before ih =>
    obtain ⟨found, ho, _⟩ :=
      @outcomesFrom_cons c earlier owned other (before ++ item :: behind) h
    obtain ⟨first, outcome, last, hrest, hfirst, hlast, hout⟩ := ih h.claim
    exact ⟨(other, found) :: first, outcome, last, by rw [List.cons_append, ho, hrest]; rfl,
      by rw [List.map_cons, hfirst], hlast, hout⟩

/-- The outcomes of a list, with that of one item in their midst. -/
theorem outcomes_append_cons (c : Config) (before behind : List Item) (item : Item) :
    ∃ first outcome last, outcomes c (before ++ item :: behind) = first ++ (item, outcome) :: last ∧
    (∀ o ∈ first ++ last, o.1 ∈ before ++ behind ∧
      (o.2 = .tried (derive c o.1.file o.1.declaration) ∨ o.2.IsNaming)) ∧
    ((∀ owner ∈ owners c before, ClassesApart c owner item.declaration) →
      outcome = .tried (derive c item.file item.declaration)) ∧
    ((∃ owner ∈ owners c before, ¬ClassesApart c owner item.declaration) → outcome.IsNaming) := by
  have hsettled : Settled c [] [] := by simp [Settled]
  obtain ⟨first, outcome, last, ho, hfirst, hlast, htried, hnaming⟩ :=
    outcomesFrom_append_cons hsettled before behind item
  have hall := @mem_outcomesFrom c [] [] (before ++ item :: behind) hsettled
  rw [ho] at hall
  refine ⟨first, outcome, last, ho, fun o hmem => ⟨?_, hall o ?_⟩,
    fun hfree => htried (classClashes_eq_nil_iff.mpr hfree), ?_⟩
  · rw [← hfirst, ← hlast, ← List.map_append]
    exact List.mem_map_of_mem hmem
  · rcases List.mem_append.mp hmem with hmem | hmem
    · exact List.mem_append_left _ hmem
    · exact List.mem_append_right _ (List.mem_cons_of_mem _ hmem)
  · rintro ⟨owner, howner, hshared⟩
    exact hnaming fun hc => hshared (classClashes_eq_nil_iff.mp hc owner howner)

end Outcomes

section Problems

/-- A problem with the class names that a declaration has within its module. -/
structure IsModuleProblem (x : Diagnostic) : Prop where
  code : x.code = some Category.naming.code
  field : x.field = none
  message : x.message.toList.head? ≠ some '`'

theorem isModuleProblem_of_isNaming {item : Item} {outcome : Outcome} (h : outcome.IsNaming) :
    ∀ x ∈ outcome.diagnostics item, IsModuleProblem x := by
  cases outcome with
  | duplicate first =>
    intro x hx
    rw [List.mem_singleton.mp hx]
    exact ⟨rfl, rfl, by simp [Issue.diagnostic, duplicateIssue]⟩
  | clash clashes =>
    intro x hx
    obtain ⟨clash, _, rfl⟩ := List.mem_map.mp hx
    exact ⟨rfl, rfl, by simp [Issue.diagnostic, ClassClash.issue]⟩
  | tried result => exact absurd h id

theorem diagnostics_ne_nil_of_isNaming {item : Item} {outcome : Outcome} (h : outcome.IsNaming) :
    outcome.diagnostics item ≠ [] := by
  cases outcome with
  | duplicate first => simp [Outcome.diagnostics]
  | clash clashes => simpa [Outcome.diagnostics, Outcome.IsNaming] using h
  | tried result => exact absurd h id

theorem not_isModuleProblem_of_category {i : Issue} {file : Option String}
    (h : i.category ≠ .naming) : ¬IsModuleProblem (i.diagnostic file) := by
  intro hx
  have hcode : some i.category.code = some Category.naming.code := hx.code
  cases hi : i.category with
  | naming => exact h hi
  | _ => simp [hi, Category.code] at hcode

theorem not_isModuleProblem_of_clash {c : Config} {record : String} {location : Option Position}
    {clash : NameClash} {file : Option String} :
    ¬IsModuleProblem ((clash.issue c record location).diagnostic file) := by
  intro hx
  cases clash with
  | reservedClass name =>
    have hticked : (NameClash.ticked name ++ " is a reserved word").toList.head? = some '`' := by
      simp [NameClash.ticked, String.toList_append]
    exact hx.message hticked
  | _ =>
    have hfield := hx.field
    simp [Issue.diagnostic, NameClash.issue, NameClash.member?] at hfield

/-- What a declaration is refused for by itself is no problem with its module. -/
theorem not_isModuleProblem_of_derive {c : Config} {file : Option String} {d : Declaration}
    {ds : Diagnostics} (h : derive c file d = .error (.problems ds)) :
    ∀ x ∈ ds, ¬IsModuleProblem x := by
  obtain ⟨issues, hm, rfl⟩ := derive_eq_problems_iff.mp h
  intro x hx
  obtain ⟨i, hi, rfl⟩ := List.mem_map.mp hx
  cases Config.isReason_of_members hm i hi with
  | record fault =>
    apply not_isModuleProblem_of_category
    cases fault <;> simp [RecordFault.issue, unnamedFieldIssue]
  | @field f fault _ _ =>
    apply not_isModuleProblem_of_category
    cases fault <;> simp [FieldFault.issue, unnamedFieldIssue, MarkFault.issue]
  | names clash => exact not_isModuleProblem_of_clash

end Problems

section Modules
variable {c : Config} {items : List Item}

theorem hintFault?_eq_none {o : Item × Outcome}
    (ho : o.2 = .tried (derive c o.1.file o.1.declaration) ∨ o.2.IsNaming)
    (hs : o.1.declaration.FromSource) : o.2.hintFault? = none := by
  rcases ho with ho | ho
  · rw [ho]
    cases hd : derive c o.1.file o.1.declaration with
    | ok p => rfl
    | error refusal =>
      cases refusal with
      | problems ds => rfl
      | unhinted fault => exact absurd hd (derive_ne_unhinted hs fault)
  · obtain ⟨item, outcome⟩ := o
    cases outcome with
    | tried result => exact absurd ho id
    | _ => rfl

/-- Parsed items have hints for all their types, so that it is only for problems that can be reported
that there is no module. -/
theorem generate_eq_error_iff (hs : ∀ item ∈ items, item.declaration.FromSource) {r : Refusal} :
    generate c items = .error r ↔
      (outcomes c items).flatMap (fun o => o.2.diagnostics o.1) ≠ [] ∧
        r = .problems ((outcomes c items).flatMap fun o => o.2.diagnostics o.1) := by
  have hsettled : Settled c [] [] := by simp [Settled]
  have hfault : (outcomes c items).findSome? (fun o => o.2.hintFault?) = none := by
    refine List.findSome?_eq_none_iff.mpr fun o ho => ?_
    have hi : o.1 ∈ items := by
      rw [← @map_fst_outcomesFrom c [] [] items hsettled]
      exact List.mem_map_of_mem ho
    exact hintFault?_eq_none (mem_outcomesFrom hsettled o ho) (hs o.1 hi)
  unfold generate classes
  dsimp only
  rw [hfault]
  dsimp only
  split
  · next h => simp [h]
  · next hne =>
    rw [and_iff_right hne]
    exact ⟨fun h => (Except.error.inj h).symm, fun h => h ▸ rfl⟩

theorem generate_of_diagnostics_ne_nil (hs : ∀ item ∈ items, item.declaration.FromSource)
    (hne : (outcomes c items).flatMap (fun o => o.2.diagnostics o.1) ≠ []) :
    generate c items =
      .error (.problems ((outcomes c items).flatMap fun o => o.2.diagnostics o.1)) :=
  (generate_eq_error_iff hs).mpr ⟨hne, rfl⟩

/-- A diagnostic of the module that is no problem with class names is one of an item by itself. -/
theorem exists_derive_of_mem_diagnostics {o : Item × Outcome} {x : Diagnostic}
    (ho : o.2 = .tried (derive c o.1.file o.1.declaration) ∨ o.2.IsNaming)
    (hx : x ∈ o.2.diagnostics o.1) (hp : ¬IsModuleProblem x) :
    ∃ es, derive c o.1.file o.1.declaration = .error (.problems es) ∧ x ∈ es := by
  rcases ho with ho | ho
  · rw [ho] at hx
    cases hd : derive c o.1.file o.1.declaration with
    | ok p => simp [hd, Outcome.diagnostics] at hx
    | error refusal =>
      cases refusal with
      | unhinted fault => simp [hd, Outcome.diagnostics] at hx
      | problems es => exact ⟨es, rfl, by simpa [hd, Outcome.diagnostics] using hx⟩
  · exact absurd (isModuleProblem_of_isNaming ho x hx) hp

/-- The items are parsed declarations, and `ds` are the problems of one of them by itself: there is
no module, and if no earlier declaration owns one of its class names, `ds` stand together among the
problems of the module. If one does, then each of them is lost, unless another item has it too. -/
theorem generate_reports_problems {c : Config} {before behind : List Item} {item : Item}
    {ds : Diagnostics}
    (hs : ∀ other ∈ before ++ item :: behind, other.declaration.FromSource)
    (hd : derive c item.file item.declaration = .error (.problems ds)) :
    ∃ diagnostics, generate c (before ++ item :: behind) = .error (.problems diagnostics) ∧
      ((∀ owner ∈ owners c before, ClassesApart c owner item.declaration) →
        ds <:+: diagnostics) ∧
      ((∃ owner ∈ owners c before, ¬ClassesApart c owner item.declaration) →
        ∀ x ∈ ds, x ∈ diagnostics → ∃ other ∈ before ++ behind, ∃ es,
          derive c other.file other.declaration = .error (.problems es) ∧ x ∈ es) := by
  obtain ⟨first, outcome, last, ho, hall, htried, hnaming⟩ :=
    outcomes_append_cons c before behind item
  have hparts : (outcomes c (before ++ item :: behind)).flatMap (fun o => o.2.diagnostics o.1) =
      first.flatMap (fun o => o.2.diagnostics o.1) ++
        (outcome.diagnostics item ++ last.flatMap fun o => o.2.diagnostics o.1) := by
    rw [ho, List.flatMap_append, List.flatMap_cons]
  have hne : outcome.diagnostics item ≠ [] := by
    by_cases hfree : ∀ owner ∈ owners c before, ClassesApart c owner item.declaration
    · rw [htried hfree, hd]
      exact derive_problems_ne_nil hd
    · exact diagnostics_ne_nil_of_isNaming (hnaming (by simpa using hfree))
  refine ⟨_, generate_of_diagnostics_ne_nil hs (by rw [hparts]; simp [hne]), fun hfree => ?_, ?_⟩
  · rw [hparts, htried hfree, hd]
    exact ⟨_, _, List.append_assoc _ _ _⟩
  · intro hshared x hx hin
    have hp := not_isModuleProblem_of_derive hd x hx
    have hother {o : Item × Outcome} (hmem : o ∈ first ++ last)
        (hxo : x ∈ o.2.diagnostics o.1) :=
      (⟨o.1, (hall o hmem).1, exists_derive_of_mem_diagnostics (hall o hmem).2 hxo hp⟩ :
        ∃ other ∈ before ++ behind, ∃ es,
          derive c other.file other.declaration = .error (.problems es) ∧ x ∈ es)
    rw [hparts, List.mem_append, List.mem_append] at hin
    rcases hin with hin | hin | hin
    · obtain ⟨o, hmem, hxo⟩ := List.mem_flatMap.mp hin
      exact hother (List.mem_append_left _ hmem) hxo
    · exact absurd (isModuleProblem_of_isNaming (hnaming hshared) x hin) hp
    · obtain ⟨o, hmem, hxo⟩ := List.mem_flatMap.mp hin
      exact hother (List.mem_append_right _ hmem) hxo

/-- An enum without variants, for which there is no builder. -/
def enumAt (column : Nat) : Item where
  declaration := { name := "E", kind := .enum, location := some ⟨1, column⟩ }

def enumProblem (column : Nat) : Diagnostic where
  message := "expected struct, found enum"
  code := some "E-STRUCT"
  phase := some "extract"
  span := ⟨none, some 1, some column⟩

theorem derive_enumAt (column : Nat) :
    derive .default (enumAt column).file (enumAt column).declaration =
      .error (.problems [enumProblem column]) := rfl

/-- Of two enums of one name, the second is only reported as a duplicate. -/
theorem generate_reports_first_enum :
    ∃ diagnostics, generate .default [enumAt 1, enumAt 12] = .error (.problems diagnostics) ∧
      [enumProblem 1] <:+: diagnostics ∧ enumProblem 12 ∉ diagnostics := by
  have hp : parse "enum E \x7b\x7d  enum E \x7b\x7d" =
      .ok [(enumAt 1).declaration, (enumAt 12).declaration] := by cbv
  have hs : ∀ item ∈ [enumAt 1, enumAt 12], item.declaration.FromSource := by
    intro item hi
    exact ⟨_, _, hp, List.mem_map_of_mem (f := Item.declaration) hi⟩
  obtain ⟨diagnostics, hg, hkept, _⟩ :=
    @generate_reports_problems .default [] [enumAt 12] (enumAt 1) _ hs (derive_enumAt 1)
  obtain ⟨_, hg', _, hlost⟩ :=
    @generate_reports_problems .default [enumAt 1] [] (enumAt 12) _ hs (derive_enumAt 12)
  cases hg.symm.trans hg'
  refine ⟨diagnostics, hg, hkept (by simp [owners]), fun hin => ?_⟩
  have hshared : ∃ owner ∈ owners .default [enumAt 1],
      ¬ClassesApart .default owner (enumAt 12).declaration :=
    ⟨(enumAt 1).declaration, by simp [owners, claim, classClashes],
      not_classesApart_of_name_eq rfl⟩
  obtain ⟨other, hother, es, hes, hx⟩ := hlost hshared _ List.mem_cons_self hin
  cases List.mem_singleton.mp hother
  cases (derive_enumAt 1).symm.trans hes
  exact absurd hx (by decide)

end Modules

end RecordBuilders.Target
