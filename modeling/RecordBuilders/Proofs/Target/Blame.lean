import RecordBuilders.Proofs.Field.FieldReports
import RecordBuilders.Proofs.Target.ModuleProblems

/-! Which item of a module a diagnostic blames, and for what. Items are tried in turn, and some of
those before an item may have been refused themselves. Main result: the diagnostics are one block
for each item, in order, in the file of that item; the block is empty if nothing is wrong with the
item, and names the earlier item in its way, or says what is wrong with the item by itself. -/
namespace RecordBuilders.Target
open Syntax Text

section Faults
variable (c : Config) (before : List Item) (item : Item)

/-- The record was declared before. -/
def Repeats : Prop :=
  ∃ first ∈ before, first.declaration.name = item.declaration.name

/-- One of the class names of the item belongs to an earlier item. -/
def IsTaken : Prop :=
  ∃ owner ∈ owners c before, ¬ClassesApart c owner item.declaration

/-- The item gets no classes behind those in `before`. -/
def Fails : Prop :=
  Repeats before item ∨ IsTaken c before item ∨
    ∀ p, derive c item.file item.declaration ≠ .ok p

/-- The class names of the item that belong to earlier items. -/
def takenNames : List String :=
  [item.declaration.name, c.builderName item.declaration.name].filter fun name =>
    (owners c before).any fun owner => [owner.name, c.builderName owner.name].contains name

end Faults

section Reports

/-- What the diagnostic says is wrong with a name of the item: an error at the declaration of the
item, in its file, with the given message and notes. -/
structure BlamesName (item : Item) (message : String) (notes : List String) (x : Diagnostic) :
    Prop where
  message : x.message = message
  code : x.code = some "E-NAME"
  phase : x.phase = some "classify"
  severity : x.severity = "error"
  line : x.span.line = item.declaration.location.map fun p => p.line
  column : x.span.column = item.declaration.location.map fun p => p.column
  file : item.file ≠ some "" → x.span.file = item.file
  field : x.field = none
  notes : x.notes = notes

/-- The note on the line of an earlier item. -/
def lineNotes (text : String) (earlier : Item) : List String :=
  earlier.declaration.location.toList.map fun p => text ++ " at line " ++ toString p.line

/-- The diagnostic says that a class `name` of the item has the name of a class of `owner`, and
which class that is. -/
def BlamesClash (item owner : Item) (name role : String) : Diagnostic → Prop :=
  BlamesName item
    ("class `" ++ name ++ "` generated for `" ++ item.declaration.name ++ "` collides with the " ++ role)
    (lineNotes ("`" ++ owner.declaration.name ++ "` declared") owner)

/-- A report on a class name of the item. A record only ever meets an earlier builder, and a builder
an earlier record: two of a kind would have one record name. -/
inductive ReportsClash (c : Config) (before : List Item) (item : Item) : String → Diagnostic → Prop
  | ofRecord {owner : Item} {x : Diagnostic} (earlier : owner ∈ before)
      (taken : item.declaration.name = c.builderName owner.declaration.name)
      (told : BlamesClash item owner item.declaration.name
        ("builder of `" ++ owner.declaration.name ++ "`") x) :
      ReportsClash c before item item.declaration.name x
  | ofBuilder {owner : Item} {x : Diagnostic} (earlier : owner ∈ before)
      (taken : c.builderName item.declaration.name = owner.declaration.name)
      (told : BlamesClash item owner (c.builderName item.declaration.name) "record" x) :
      ReportsClash c before item (c.builderName item.declaration.name) x

/-- What an item adds to the diagnostics of its module. -/
inductive Block (c : Config) (before : List Item) (item : Item) : Diagnostics → Prop
  | duplicate {first : Item} {x : Diagnostic}
      (found : before.find? (·.declaration.name == item.declaration.name) = some first)
      (told : BlamesName item ("duplicate declaration `" ++ item.declaration.name ++ "`")
        (lineNotes "first declared" first) x) :
      Block c before item [x]
  | clashes {reports : Diagnostics} (new : ¬Repeats before item) (nonempty : reports ≠ [])
      (each : (takenNames c before item).Forall₂ (ReportsClash c before item) reports) :
      Block c before item reports
  | own {problems : Diagnostics} (new : ¬Repeats before item) (free : ¬IsTaken c before item)
      (alone : derive c item.file item.declaration = .error (.problems problems)) :
      Block c before item problems
  | none {p : ClassPair} (new : ¬Repeats before item) (free : ¬IsTaken c before item)
      (alone : derive c item.file item.declaration = .ok p) : Block c before item []

end Reports

section Diagnostics
variable {item : Item} {i : Issue}

theorem placeNotes_eq (text : String) (earlier : Item) :
    placeNotes text earlier.declaration = lineNotes text earlier := by
  unfold placeNotes lineNotes
  cases earlier.declaration.location <;> rfl

/-- An issue with a name of the item is reported at its declaration. -/
theorem blamesName_diagnostic (hc : i.category = .naming) (hf : i.field = none)
    (ho : i.origin = .ofPosition? item.declaration.location) :
    BlamesName item i.message i.notes (i.diagnostic item.file) where
  message := rfl
  code := by rw [Issue.diagnostic, hc]; rfl
  phase := by rw [Issue.diagnostic, hc]; rfl
  severity := rfl
  line := by rw [Issue.diagnostic, ho]; cases item.declaration.location <;> rfl
  column := by rw [Issue.diagnostic, ho]; cases item.declaration.location <;> rfl
  file := fun hfile => Issue.file_diagnostic ho hfile
  field := hf
  notes := rfl

theorem blamesName_duplicateIssue (item first : Item) :
    BlamesName item ("duplicate declaration `" ++ item.declaration.name ++ "`")
      (lineNotes "first declared" first)
      ((duplicateIssue item.declaration first.declaration).diagnostic item.file) := by
  rw [← placeNotes_eq]
  exact blamesName_diagnostic (i := duplicateIssue item.declaration first.declaration) rfl rfl rfl

theorem blamesClash_issue (item owner : Item) (name : String) :
    BlamesClash item owner name
      (if name = owner.declaration.name then "record"
        else "builder of `" ++ owner.declaration.name ++ "`")
      ((ClassClash.issue item.declaration ⟨name, owner.declaration⟩).diagnostic item.file) := by
  rw [BlamesClash, ← placeNotes_eq]
  exact blamesName_diagnostic
    (i := ClassClash.issue item.declaration ⟨name, owner.declaration⟩) rfl rfl rfl

end Diagnostics

section Owners
variable {c : Config} {before : List Item} {item : Item}

/-- Whoever owns class names came with one of the items. -/
theorem mem_of_mem_foldl_claim {owned : List Declaration} {owner : Declaration}
    (h : owner ∈ before.foldl (fun owned item => claim c owned item.declaration) owned) :
    owner ∈ owned ∨ ∃ item ∈ before, item.declaration = owner := by
  induction before generalizing owned with
  | nil => exact Or.inl h
  | cons first before ih =>
    rcases ih h with h | ⟨item, hi, he⟩
    · dsimp only at h
      unfold claim at h
      split at h
      · rcases List.mem_append.mp h with h | h
        · exact Or.inl h
        · exact Or.inr ⟨first, List.mem_cons_self, (List.mem_singleton.mp h).symm⟩
      · exact Or.inl h
    · exact Or.inr ⟨item, List.mem_cons_of_mem _ hi, he⟩

theorem exists_item_of_owner {owner : Declaration} (h : owner ∈ owners c before) :
    ∃ item ∈ before, item.declaration = owner := by
  rcases mem_of_mem_foldl_claim h with h | h
  · cases h
  · exact h

theorem isTaken_iff : IsTaken c before item ↔ classClashes c (owners c before) item.declaration ≠ [] := by
  rw [Ne, classClashes_eq_nil_iff]
  simp [IsTaken]

theorem builderName_inj {name other : String} (h : c.builderName name = c.builderName other) :
    name = other := by
  have hl : name.toList ++ c.builderSuffix.toList = other.toList ++ c.builderSuffix.toList := by
    simpa only [Config.builderName, String.toList_append] using congrArg String.toList h
  exact String.toList_inj.mp (List.append_cancel_right hl)

/-- The role that a clash names is the one that the class of the owner has. -/
theorem reportsClash_of_owner {owner : Declaration} {name : String} (new : ¬Repeats before item)
    (howner : owner ∈ owners c before)
    (hname : name ∈ [item.declaration.name, c.builderName item.declaration.name])
    (hown : name ∈ [owner.name, c.builderName owner.name]) :
    ReportsClash c before item name
      ((ClassClash.issue item.declaration ⟨name, owner⟩).diagnostic item.file) := by
  obtain ⟨first, hfirst, rfl⟩ := exists_item_of_owner howner
  have hne : first.declaration.name ≠ item.declaration.name := fun he => new ⟨first, hfirst, he⟩
  have htold := blamesClash_issue item first name
  simp only [List.mem_cons, List.not_mem_nil, or_false] at hname hown
  rcases hname with rfl | rfl
  · rcases hown with he | hb
    · exact absurd he.symm hne
    · rw [if_neg hne.symm] at htold
      exact .ofRecord hfirst hb htold
  · rcases hown with he | hb
    · rw [if_pos he] at htold
      exact .ofBuilder hfirst he htold
    · exact absurd (builderName_inj hb).symm hne

/-- Whatever a partial function keeps of a list stands beside what it was made of. -/
theorem forall₂_filterMap {α β : Type} {R : α → β → Prop} {kept : α → Bool} {f : α → Option β}
    {xs : List α} (hnone : ∀ x ∈ xs, kept x = false → f x = none)
    (hsome : ∀ x ∈ xs, kept x = true → ∃ y, f x = some y ∧ R x y) :
    (xs.filter kept).Forall₂ R (xs.filterMap f) := by
  induction xs with
  | nil => exact .nil
  | cons x xs ih =>
    obtain ⟨hx, hxs⟩ := List.forall_mem_cons.mp hnone
    obtain ⟨hx', hxs'⟩ := List.forall_mem_cons.mp hsome
    cases hk : kept x with
    | false =>
      rw [List.filter_cons_of_neg (by simp [hk]), List.filterMap_cons_none (hx hk)]
      exact ih hxs hxs'
    | true =>
      obtain ⟨y, hy, hr⟩ := hx' hk
      rw [List.filter_cons_of_pos hk, List.filterMap_cons_some hy]
      exact .cons hr (ih hxs hxs')

/-- Each class name that belongs to somebody is reported, in order, and no other one. -/
theorem forall₂_reports (new : ¬Repeats before item) :
    (takenNames c before item).Forall₂ (ReportsClash c before item)
      ((Outcome.clash (classClashes c (owners c before) item.declaration)).diagnostics item) := by
  rw [Outcome.diagnostics, classClashes, List.map_filterMap]
  simp only [classNames]
  refine forall₂_filterMap (fun name _ hk => ?_) fun name hname hk => ?_
  · rw [List.find?_eq_none.mpr (by simpa using hk)]
    rfl
  · obtain ⟨owner, hf⟩ := Option.isSome_iff_exists.mp (List.find?_isSome.mpr (List.any_eq_true.mp hk))
    have hown : name ∈ [owner.name, c.builderName owner.name] := by simpa using List.find?_some hf
    rw [hf]
    exact ⟨_, rfl, reportsClash_of_owner new (List.mem_of_find?_eq_some hf) hname hown⟩

end Owners

section Outcomes
variable {c : Config} {before items : List Item} {item : Item}

/-- What a parsed item comes to behind others is the block that it adds to the diagnostics. -/
theorem block_of_outcomeOf (hs : item.declaration.FromSource) :
    Block c before item
      ((outcomeOf c (before.map Item.declaration) (owners c before) item).diagnostics item) := by
  unfold outcomeOf
  rw [List.find?_map]
  cases hf : before.find? (·.declaration.name == item.declaration.name) with
  | some first =>
    simp only [Function.comp_def, hf, Option.map_some]
    exact .duplicate hf (blamesName_duplicateIssue item first)
  | none =>
    have new : ¬Repeats before item := by
      rintro ⟨first, hfirst, he⟩
      exact List.find?_eq_none.mp hf first hfirst (by simpa using he)
    simp only [Function.comp_def, hf, Option.map_none]
    split
    · next hc =>
      have free : ¬IsTaken c before item := fun ht => isTaken_iff.mp ht hc
      cases hd : derive c item.file item.declaration with
      | ok p => exact .none new free hd
      | error refusal =>
        cases refusal with
        | problems problems => exact .own new free hd
        | unhinted fault => exact absurd hd (derive_ne_unhinted hs fault)
    · next hc =>
      exact .clashes new (diagnostics_ne_nil_of_isNaming hc) (forall₂_reports new)

/-- Only what precedes an item decides what it comes to. -/
theorem getElem?_outcomesFrom {earlier owned : List Declaration} (h : Settled c earlier owned)
    (i : Nat) : (outcomesFrom c earlier owned items)[i]? = items[i]?.map fun item =>
      (item, outcomeOf c (earlier ++ (items.take i).map Item.declaration)
        ((items.take i).foldl (fun owned item => claim c owned item.declaration) owned) item) := by
  induction items generalizing earlier owned i with
  | nil => rfl
  | cons first items ih =>
    rw [outcomesFrom_cons_eq h]
    cases i with
    | zero => simp
    | succ i => simp [ih h.claim i]

theorem getElem?_outcomes (c : Config) (items : List Item) (i : Nat) :
    (outcomes c items)[i]? = items[i]?.map fun item =>
      (item, outcomeOf c ((items.take i).map Item.declaration) (owners c (items.take i)) item) :=
  getElem?_outcomesFrom (by simp [Settled]) i

end Outcomes

section Files

/-- Whatever a declaration is refused for has its place in the text, as far as places are known. -/
theorem exists_position_of_isReason {c : Config} {d : Declaration} {i : Issue}
    (h : c.IsReason d i) : ∃ p, i.origin = .ofPosition? p := by
  cases h with
  | record fault => cases fault <;> exact ⟨_, rfl⟩
  | @field f fault _ _ => cases fault <;> exact ⟨_, rfl⟩
  | names clash => exact ⟨_, rfl⟩

theorem ReportsClash.file_eq {c : Config} {before : List Item} {item : Item} {name : String}
    {x : Diagnostic} (h : ReportsClash c before item name x) (hf : item.file ≠ some "") :
    x.span.file = item.file := by
  cases h with
  | ofRecord _ _ told | ofBuilder _ _ told => exact told.file hf

theorem Block.file_eq {c : Config} {before : List Item} {item : Item} {ds : Diagnostics}
    (h : Block c before item ds) (hf : item.file ≠ some "") :
    ∀ x ∈ ds, x.span.file = item.file := by
  cases h with
  | duplicate _ told =>
    intro x hx
    rw [List.mem_singleton.mp hx]
    exact told.file hf
  | clashes new nonempty each =>
    intro x hx
    obtain ⟨i, hlt, rfl⟩ := List.getElem_of_mem hx
    exact (each.get (by rw [each.length_eq]; exact hlt) hlt).file_eq hf
  | own new free alone =>
    intro x hx
    obtain ⟨issues, hm, rfl⟩ := derive_eq_problems_iff.mp alone
    obtain ⟨i, hmem, rfl⟩ := List.mem_map.mp hx
    obtain ⟨p, hp⟩ := exists_position_of_isReason (Config.isReason_of_members hm i hmem)
    exact Issue.file_diagnostic hp hf
  | none => simp

end Files

section Modules
variable {c : Config} {items : List Item}

theorem Block.ne_nil_iff {before : List Item} {item : Item} {ds : Diagnostics}
    (h : Block c before item ds) : ds ≠ [] ↔ Fails c before item := by
  cases h with
  | duplicate found _ =>
    have hname := List.find?_some found
    exact iff_of_true (by simp)
      (Or.inl ⟨_, List.mem_of_find?_eq_some found, by simpa using hname⟩)
  | clashes new nonempty each =>
    refine iff_of_true nonempty (Or.inr (Or.inl ?_))
    obtain ⟨name, hname⟩ := List.exists_mem_of_ne_nil (takenNames c before item) fun hn => by
      rw [hn] at each
      cases each
      exact nonempty rfl
    obtain ⟨hmem, hany⟩ := List.mem_filter.mp hname
    obtain ⟨owner, howner, hown⟩ := List.any_eq_true.mp hany
    exact ⟨owner, howner, fun hapart => hapart (by simpa using hown) hmem⟩
  | own new free alone =>
    exact iff_of_true (derive_problems_ne_nil alone) (Or.inr (Or.inr (by simp [alone])))
  | none new free alone =>
    refine iff_of_false (by simp) ?_
    rintro (hr | ht | hd)
    · exact new hr
    · exact free ht
    · exact hd _ alone

/-- The items are parsed declarations from named files, and there is no module for them. Then the
diagnostics are one block for each item, in order. The block is empty exactly if the item does not
fail, it is in the file of the item, and it names the earlier item whose class names are taken, or
holds what is wrong with the item by itself. -/
theorem generate_blames (hs : ∀ item ∈ items, item.declaration.FromSource)
    (hfiles : ∀ item ∈ items, ∃ file, item.file = some file ∧ file ≠ "") {r : Refusal}
    (h : generate c items = .error r) :
    ∃ blocks : List Diagnostics, r = .problems blocks.flatten ∧ blocks.length = items.length ∧
      ∀ i (hi : i < items.length) (hb : i < blocks.length),
        Block c (items.take i) items[i] blocks[i] ∧
        (blocks[i] ≠ [] ↔ Fails c (items.take i) items[i]) ∧
        ∀ x ∈ blocks[i], x.span.file = items[i].file := by
  have hlength : (outcomes c items).length = items.length := by
    rw [← List.length_map (f := Prod.fst), outcomes, map_fst_outcomesFrom (by simp [Settled])]
  refine ⟨(outcomes c items).map fun o => o.2.diagnostics o.1, ?_, by simpa using hlength, ?_⟩
  · rw [((generate_eq_error_iff hs).mp h).2, List.flatMap_def]
  · intro i hi hb
    -- The outcome of an item depends on the items before it alone, whatever became of them.
    have hitem := items.getElem_mem hi
    have hget := getElem?_outcomes c items i
    rw [List.getElem?_eq_getElem hi, List.getElem?_eq_getElem (by rwa [hlength])] at hget
    have hblock : Block c (items.take i) items[i]
        (((outcomes c items).map fun o => o.2.diagnostics o.1)[i]) := by
      rw [List.getElem_map, Option.some.inj hget]
      exact block_of_outcomeOf (hs _ hitem)
    obtain ⟨file, hfile, hne⟩ := hfiles _ hitem
    have hnamed : items[i].file ≠ some "" := by simpa [hfile] using hne
    exact ⟨hblock, hblock.ne_nil_iff, hblock.file_eq hnamed⟩

/-- An enum without variants in a file. -/
def enumIn (file : String) (column : Nat) : Item where
  declaration := (enumAt column).declaration
  file := some file

/-- Two files that declare an enum of one name: each file gets a block of its own, and that of the
second file tells the line of the first. -/
theorem generate_blames_each_file : ∃ (first : Diagnostics) (repeated : Diagnostic),
    generate .default [enumIn "a.rs" 1, enumIn "b.rs" 12] =
      .error (.problems (first ++ [repeated])) ∧
    (first ≠ [] ∧ ∀ x ∈ first, x.span.file = some "a.rs") ∧
    repeated.span.file = some "b.rs" ∧ repeated.message = "duplicate declaration `E`" ∧
    repeated.notes = ["first declared at line 1"] := by
  have hp : parse "enum E \x7b\x7d  enum E \x7b\x7d" =
      .ok [(enumAt 1).declaration, (enumAt 12).declaration] := by cbv
  have hs : ∀ item ∈ [enumIn "a.rs" 1, enumIn "b.rs" 12], item.declaration.FromSource := by
    intro item hi
    exact ⟨_, _, hp, List.mem_map_of_mem (f := Item.declaration) hi⟩
  have hfiles : ∀ item ∈ [enumIn "a.rs" 1, enumIn "b.rs" 12],
      ∃ file, item.file = some file ∧ file ≠ "" := by simp [enumIn]
  obtain ⟨r, hr⟩ : ∃ r, generate .default [enumIn "a.rs" 1, enumIn "b.rs" 12] = .error r := ⟨_, rfl⟩
  obtain ⟨blocks, rfl, hlength, hall⟩ := generate_blames hs hfiles hr
  obtain ⟨first, second, rfl⟩ := List.length_eq_two.mp hlength
  obtain ⟨-, hfails, hfile⟩ := hall 0 (by simp) (by simp)
  obtain ⟨hblock, -, hfile'⟩ := hall 1 (by simp) (by simp)
  have hrepeats : Repeats [enumIn "a.rs" 1] (enumIn "b.rs" 12) := ⟨_, List.mem_cons_self, rfl⟩
  have hfirst : first ≠ [] := hfails.mpr (Or.inr (Or.inr fun p hd => by cases hd))
  cases hblock with
  | @duplicate earlier repeated found told =>
    cases found
    exact ⟨first, repeated, by simpa using hr, ⟨hfirst, hfile⟩, hfile' _ List.mem_cons_self,
      told.message, told.notes⟩
  | clashes new | own new | none new => exact absurd hrepeats new

end Modules

end RecordBuilders.Target
