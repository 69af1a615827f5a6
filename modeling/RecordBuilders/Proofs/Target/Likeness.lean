import RecordBuilders.Proofs.Field.Likeness
import RecordBuilders.Proofs.Target.ModuleParts
import RecordBuilders.Proofs.Target.Blame

/-! Places and files within a module. Main result: they influence nothing but the places and notes of
its diagnostics, and neither do attributes of declarations, variants or later annotations. -/
namespace RecordBuilders.Target
open Syntax

section Pairs

def HintedMember.bare (m : HintedMember) : HintedMember := { m with location := none }

def ClassPair.bare (p : ClassPair) : ClassPair :=
  { p with members := p.members.map HintedMember.bare }

theorem hintMembers_bare (map : TypeMap) (members : List Member) :
    hintMembers map (members.map Member.bare) =
      (hintMembers map members).map (·.map HintedMember.bare) := by
  have hdeclared : (hint map ·.declared) ∘ Member.bare = (hint map ·.declared) := rfl
  have hvalue : (hint map ·.valueType) ∘ Member.bare = (hint map ·.valueType) := rfl
  unfold hintMembers
  rw [List.mapM_map, List.mapM_map, hdeclared, hvalue]
  cases members.mapM (hint map ·.declared) with
  | error fault => rfl
  | ok declared =>
    cases members.mapM (hint map ·.valueType) with
    | error fault => rfl
    | ok values =>
      refine congrArg Except.ok ?_
      dsimp only
      rw [List.zipWith_map_left, List.map_zipWith]
      rfl

theorem classPair_bare (c : Config) (record : String) (members : List Member) :
    classPair c record (members.map Member.bare) =
      (classPair c record members).map ClassPair.bare := by
  rw [classPair, classPair, hintMembers_bare]
  cases hintMembers c.typeMap members <;> rfl

/-- Where a field was declared does not show in the text of its classes. -/
theorem ClassPair.text_bare (p : ClassPair) : p.bare.text = p.text := by
  have hmap {β : Type} {f : HintedMember → β} (hf : f ∘ HintedMember.bare = f) :
      (p.members.map HintedMember.bare).map f = p.members.map f := by
    rw [List.map_map, hf]
  have hflat {β : Type} {f : HintedMember → List β} (hf : f ∘ HintedMember.bare = f) :
      (p.members.map HintedMember.bare).flatMap f = p.members.flatMap f := by
    rw [List.flatMap_map]
    exact congrArg (p.members.flatMap ·) hf
  have hempty : (p.members.map HintedMember.bare).isEmpty = p.members.isEmpty := by
    cases p.members <;> rfl
  have hrecord : p.bare.recordLines = p.recordLines := by
    simp only [recordLines, bare, hempty, hmap (f := HintedMember.fieldLine) rfl]
  have hstorage : p.bare.storageLines = p.storageLines := by
    simp only [storageLines, bare, hempty, hmap (f := fun m => m.slot) rfl,
      hmap (f := HintedMember.initialLine) rfl]
  have hsetters : p.bare.members.flatMap p.bare.setterLines = p.members.flatMap p.setterLines :=
    hflat (f := p.setterLines) rfl
  have hbuild : p.bare.buildLines = p.buildLines := by
    simp only [buildLines, bare, hempty, hflat (f := HintedMember.checkLines) rfl,
      hmap (f := HintedMember.argumentLine) rfl]
  rw [text, text, lines, lines, hrecord, hstorage, hsetters, hbuild]

end Pairs

section Outcomes

/-- What the result of a module is made of: types without a hint, what diagnostics say, and texts. -/
structure Seen where
  fault : Option HintFault
  problems : List (String × Option String × Option String × Option String)
  text : Option String

def seen (o : Item × Outcome) : Seen where
  fault := o.2.hintFault?
  problems := (o.2.diagnostics o.1).map Diagnostic.content
  text := o.2.classes?.map ClassPair.text

def Item.bare (item : Item) : Item where
  declaration := item.declaration.bare

variable (c : Config)

theorem seen_tried_bare (item : Item) :
    seen (item.bare, .tried (derive c none item.declaration.bare)) =
      seen (item, .tried (derive c item.file item.declaration)) := by
  unfold derive
  rw [c.members_bare]
  cases c.members item.declaration with
  | error issues =>
    have hcontent : ((issues.map Issue.unplaced).map (·.diagnostic none)).map Diagnostic.content =
        (issues.map (·.diagnostic item.file)).map Diagnostic.content := by
      simp only [List.map_map]
      exact List.map_congr_left fun i _ => i.content_unplaced none item.file
    exact congrArg (Seen.mk none · none) hcontent
  | ok members =>
    simp only [Except.map, Except.mapError]
    rw [show item.declaration.bare.name = item.declaration.name from rfl, classPair_bare]
    cases classPair c item.declaration.name members with
    | error fault => rfl
    | ok p => exact congrArg (Seen.mk none [] <| some ·) p.text_bare

theorem classClashes_bare (owned : List Declaration) (d : Declaration) :
    classClashes c (owned.map Declaration.bare) d.bare =
      (classClashes c owned d).map fun clash => { clash with owner := clash.owner.bare } := by
  rw [classClashes, classClashes, List.map_filterMap]
  refine congrArg (List.filterMap · (classNames c d)) (funext fun name => ?_)
  rw [List.find?_map]
  have hnames : (fun owner : Declaration => (classNames c owner).contains name) ∘ Declaration.bare =
      fun owner => (classNames c owner).contains name := rfl
  rw [hnames]
  cases owned.find? fun owner => (classNames c owner).contains name <;> rfl

theorem claim_bare (owned : List Declaration) (d : Declaration) :
    claim c (owned.map Declaration.bare) d.bare = (claim c owned d).map Declaration.bare := by
  rw [claim, claim, classClashes_bare, List.isEmpty_map]
  split
  · rw [List.map_append]
    rfl
  · rfl

theorem owners_bare (items : List Item) :
    owners c (items.map Item.bare) = (owners c items).map Declaration.bare := by
  have hfold (owned : List Declaration) :
      (items.map Item.bare).foldl (fun owned item => claim c owned item.declaration)
          (owned.map Declaration.bare) =
        (items.foldl (fun owned item => claim c owned item.declaration) owned).map
          Declaration.bare := by
    induction items generalizing owned with
    | nil => rfl
    | cons item items ih =>
      rw [List.map_cons, List.foldl_cons, List.foldl_cons, ← ih]
      exact congrArg (List.foldl _ · _) (claim_bare c owned item.declaration)
  exact hfold []

theorem content_clashes_bare (item : Item) (clashes : List ClassClash) :
    ((Outcome.clash (clashes.map fun clash => { clash with owner := clash.owner.bare })).diagnostics
        item.bare).map Diagnostic.content =
      ((Outcome.clash clashes).diagnostics item).map Diagnostic.content := by
  simp only [Outcome.diagnostics, List.map_map]
  rfl

theorem seen_outcomeOf_bare (earlier owned : List Declaration) (item : Item) :
    seen (item.bare,
        outcomeOf c (earlier.map Declaration.bare) (owned.map Declaration.bare) item.bare) =
      seen (item, outcomeOf c earlier owned item) := by
  have hname : (fun d : Declaration => d.name == item.bare.declaration.name) ∘ Declaration.bare =
      fun d => d.name == item.declaration.name := rfl
  unfold outcomeOf
  rw [List.find?_map, hname]
  cases earlier.find? (·.name == item.declaration.name) with
  | some first => rfl
  | none =>
    rw [show item.bare.declaration = item.declaration.bare from rfl, classClashes_bare]
    cases hc : classClashes c owned item.declaration with
    | nil => exact seen_tried_bare c item
    | cons clash clashes =>
      exact congrArg (Seen.mk none · none) (content_clashes_bare item (clash :: clashes))

/-- Without places, files and all that is not looked at, every item comes to the same. -/
theorem seen_outcomes_bare (items : List Item) :
    (outcomes c (items.map Item.bare)).map seen = (outcomes c items).map seen := by
  refine List.ext_getElem? fun i => ?_
  rw [List.getElem?_map, List.getElem?_map, getElem?_outcomes, getElem?_outcomes,
    List.getElem?_map, ← List.map_take, owners_bare, Option.map_map, Option.map_map]
  cases items[i]? with
  | none => rfl
  | some item =>
    have hdeclarations : ((items.take i).map Item.bare).map Item.declaration =
        ((items.take i).map Item.declaration).map Declaration.bare := by
      rw [List.map_map, List.map_map]
      rfl
    simp only [Option.map_some, Function.comp_apply, hdeclarations, seen_outcomeOf_bare]

end Outcomes

section Results

/-- One text, or diagnostics that say the same one by one, or one type without a hint. -/
inductive SameResult : Except Refusal String → Except Refusal String → Prop
  | text (text : String) : SameResult (.ok text) (.ok text)
  | problems {ds es : Diagnostics} (same : ds.map Diagnostic.content = es.map Diagnostic.content) :
      SameResult (.error (.problems ds)) (.error (.problems es))
  | unhinted (fault : HintFault) :
      SameResult (.error (.unhinted fault)) (.error (.unhinted fault))

theorem moduleText_congr {pairs pairs' : List ClassPair}
    (h : pairs.map ClassPair.text = pairs'.map ClassPair.text) :
    moduleText pairs = moduleText pairs' := by
  have hmap (ps : List ClassPair) :
      ps.map (fun p => "\n\n" ++ p.text) = (ps.map ClassPair.text).map ("\n\n" ++ ·) := by
    rw [List.map_map]
    rfl
  rw [moduleText_eq, moduleText_eq, hmap, hmap, h]

/-- The result of a module depends on its outcomes only through what is seen of them. -/
theorem sameResult_of_seen {c : Config} {items items' : List Item}
    (h : (outcomes c items).map seen = (outcomes c items').map seen) :
    SameResult (generate c items) (generate c items') := by
  have hfault := congrArg (List.findSome? Seen.fault) h
  have hproblems := congrArg (List.flatMap Seen.problems) h
  have htexts := congrArg (List.filterMap Seen.text) h
  simp only [List.findSome?_map, List.flatMap_map, List.filterMap_map] at hfault hproblems htexts
  unfold generate classes
  dsimp only
  have hfind (os : List (Item × Outcome)) :
      os.findSome? (fun o => o.2.hintFault?) = os.findSome? (Seen.fault ∘ seen) := rfl
  rw [hfind, hfind, hfault]
  cases (outcomes c items').findSome? (Seen.fault ∘ seen) with
  | some fault => exact .unhinted fault
  | none =>
    have hsame : ((outcomes c items).flatMap fun o => o.2.diagnostics o.1).map Diagnostic.content =
        ((outcomes c items').flatMap fun o => o.2.diagnostics o.1).map Diagnostic.content := by
      rw [List.map_flatMap, List.map_flatMap]
      exact hproblems
    have htext : ((outcomes c items).filterMap fun o => o.2.classes?).map ClassPair.text =
        ((outcomes c items').filterMap fun o => o.2.classes?).map ClassPair.text := by
      rw [List.map_filterMap, List.map_filterMap]
      exact htexts
    -- The contents are the same, so either both lists of diagnostics are empty or none of them.
    dsimp only
    cases hd : (outcomes c items).flatMap fun o => o.2.diagnostics o.1 with
    | nil =>
      rw [hd] at hsame
      rw [List.map_eq_nil_iff.mp hsame.symm]
      simp only [Functor.map, Except.map, moduleText_congr htext]
      exact .text _
    | cons x ds =>
      rw [hd] at hsame
      obtain ⟨y, es, he⟩ := List.exists_cons_of_ne_nil
        (l := (outcomes c items').flatMap fun o => o.2.diagnostics o.1)
        (by rintro hn; rw [hn] at hsame; cases hsame)
      rw [he] at hsame ⊢
      exact .problems hsame

/-- Two lists of items agree, position by position, on the names and kinds of declarations, on the
names and types of their fields, and on what the first annotation of each field says. Then they make
one text, or they fail with the same diagnostics apart from places and notes. -/
theorem generate_alike (c : Config) {items items' : List Item}
    (h : items.Forall₂ (fun item item' => item.declaration.Alike item'.declaration) items') :
    SameResult (generate c items) (generate c items') := by
  have hbare : items.map Item.bare = items'.map Item.bare :=
    map_eq_of_forall₂ (fun _ _ ha => congrArg (Item.mk · none) ha.bare_eq) h
  apply sameResult_of_seen
  rw [← seen_outcomes_bare, hbare, seen_outcomes_bare]

/-- A record whose field has an annotation that no builder knows, and perhaps others behind it. -/
def foreignMark (file : String) (column : Nat) (later : List Attribute) : Item where
  declaration := {
    name := "S"
    fields := [{
      name := some "x"
      type := .path [.plain "u8"]
      annotations := { path := ["foo"], location := some ⟨1, column⟩ } :: later
      location := some ⟨1, column + 7⟩ }]
    location := some ⟨1, 1⟩ }
  file := some file

/-- The diagnostics differ, but only in their places. -/
theorem generate_alike_foreign_marks : ∃ ds es,
    generate .default [foreignMark "a.rs" 12 []] = .error (.problems ds) ∧
    generate .default [foreignMark "b.rs" 20 [{ path := ["bar"] }]] = .error (.problems es) ∧
    ds ≠ es ∧ ds.map Diagnostic.content = es.map Diagnostic.content := by
  have hsame := @generate_alike .default [foreignMark "a.rs" 12 []]
    [foreignMark "b.rs" 20 [{ path := ["bar"] }]]
    (.cons ⟨rfl, rfl, .cons ⟨rfl, rfl, rfl⟩ .nil⟩ .nil)
  obtain ⟨x, hx, hfile⟩ : ∃ x : Diagnostic,
      generate .default [foreignMark "a.rs" 12 []] = .error (.problems [x]) ∧
        x.span.file = some "a.rs" := ⟨_, rfl, rfl⟩
  obtain ⟨y, hy, hfile'⟩ : ∃ y : Diagnostic,
      generate .default [foreignMark "b.rs" 20 [{ path := ["bar"] }]] = .error (.problems [y]) ∧
        y.span.file = some "b.rs" := ⟨_, rfl, rfl⟩
  rw [hx, hy] at hsame
  refine ⟨[x], [y], hx, hy, fun he => ?_, ?_⟩
  · rw [List.cons.inj he |>.1, hfile'] at hfile
    exact absurd (Option.some.inj hfile) (by decide)
  · cases hsame with
    | problems same => exact same

end Results

end RecordBuilders.Target
