import Mathlib.Data.List.Forall2
import RecordBuilders.Proofs.Field.Record
import RecordBuilders.Proofs.Success
import RecordBuilders.Target.Module

/-! When there is a module for a list of declarations. The items are tried one after the other, and
names are taken on the way; whether all of them succeed is nevertheless a matter of each declaration
by itself and of each two of them. -/
namespace RecordBuilders.Target
open Syntax

/-- The classes that a declaration gets: under names that the configuration makes of its own, and
with the members that its fields were classified as. -/
structure ClassPair.IsFor (c : Config) (d : Declaration) (p : ClassPair) : Prop where
  record : p.record = d.name
  builder : p.builder = c.builderName d.name
  factory : p.factory = c.factoryName
  buildMethod : p.buildMethod = c.buildMethod
  members : c.members d = .ok (p.members.map HintedMember.toMember)

/-- Hints are added to the members; none is lost or moved. -/
theorem toMember_hintMembers {map : TypeMap} {members : List Member} {hinted : List HintedMember}
    (h : hintMembers map members = .ok hinted) :
    hinted.map HintedMember.toMember = members := by
  obtain ⟨declared, hd, h⟩ := bind_eq_ok_iff.mp h
  obtain ⟨values, hv, h⟩ := bind_eq_ok_iff.mp h
  cases h
  have hd := (mapM_eq_ok_iff.mp hd).1
  have hv := (mapM_eq_ok_iff.mp hv).1
  have hl : members.length ≤ (declared.zip values).length := by
    rw [List.length_zip]
    omega
  have hm : members.zipWith (fun m (_ : String × String) => m) (declared.zip values) = members := by
    rw [← List.map_uncurry_zip_eq_zipWith]
    exact List.map_fst_zip hl
  simpa only [List.map_zipWith] using hm

theorem ClassPair.isFor_of_derive {c : Config} {file : Option String} {d : Declaration}
    {p : ClassPair} (h : derive c file d = .ok p) : p.IsFor c d := by
  unfold derive at h
  cases hm : c.members d with
  | error issues => simp [hm] at h
  | ok members =>
    simp only [hm] at h
    obtain ⟨hinted, hh, h⟩ := bind_eq_ok_iff.mp (mapError_eq_ok_iff.mp h)
    cases h
    refine ⟨rfl, rfl, rfl, rfl, ?_⟩
    rw [toMember_hintMembers hh]
    exact hm

/-- The problems of a declaration are what its fields and names are refused for. -/
theorem derive_eq_problems_iff {c : Config} {file : Option String} {d : Declaration}
    {ds : Diagnostics} : derive c file d = .error (.problems ds) ↔
      ∃ issues, c.members d = .error issues ∧ issues.map (·.diagnostic file) = ds := by
  unfold derive
  cases hm : c.members d with
  | ok members => cases hp : classPair c d.name members <;> simp [hp, Except.mapError]
  | error issues => simp

/-- A declaration is not refused without a reason. -/
theorem derive_problems_ne_nil {c : Config} {file : Option String} {d : Declaration}
    {p : Diagnostics} (h : derive c file d = .error (.problems p)) : p ≠ [] := by
  obtain ⟨issues, hm, rfl⟩ := derive_eq_problems_iff.mp h
  rcases Config.members_eq_error_iff.mp hm with ⟨fault, _, rfl⟩ | ⟨_, _, hne, _⟩
  · exact List.cons_ne_nil _ _
  · simpa using hne

/-- Neither the record class nor the builder class of one declaration has the name of either class
of the other. -/
def ClassesApart (c : Config) (d e : Declaration) : Prop :=
  [d.name, c.builderName d.name].Disjoint [e.name, c.builderName e.name]

theorem ClassesApart.symm {c : Config} {d e : Declaration} (h : ClassesApart c d e) :
    ClassesApart c e d :=
  fun _ he hd => h hd he

theorem classClashes_eq_nil_iff {c : Config} {owners : List Declaration} {d : Declaration} :
    classClashes c owners d = [] ↔ ∀ owner ∈ owners, ClassesApart c owner d := by
  simp only [classClashes, List.filterMap_eq_nil_iff, Option.map_eq_none_iff, List.find?_eq_none,
    List.contains_iff_mem]
  exact ⟨fun h owner ho _ hn hd => h _ hd owner ho hn, fun h _ hd owner ho hn => h owner ho hn hd⟩

/-- What the outcomes of a list come to if none of them is a failure. -/
def Succeed (outcomes : List (Item × Outcome)) (pairs : List ClassPair) : Prop :=
  (∀ o ∈ outcomes, o.2.hintFault? = none ∧ o.2.diagnostics o.1 = []) ∧
    outcomes.filterMap (fun o => o.2.classes?) = pairs

theorem not_succeed_cons {item : Item} {outcome : Outcome} {outcomes : List (Item × Outcome)}
    {pairs : List ClassPair} (h : outcome.diagnostics item ≠ []) :
    ¬Succeed ((item, outcome) :: outcomes) pairs :=
  fun hs => h (hs.1 (item, outcome) List.mem_cons_self).2

theorem succeed_tried_iff {c : Config} {item : Item} {outcomes : List (Item × Outcome)}
    {pairs : List ClassPair} :
    Succeed ((item, .tried (derive c item.file item.declaration)) :: outcomes) pairs ↔
      ∃ p rest, derive c item.file item.declaration = .ok p ∧ pairs = p :: rest ∧
        Succeed outcomes rest := by
  constructor
  · rintro ⟨hall, rfl⟩
    obtain ⟨hh, hd⟩ := hall (item, _) List.mem_cons_self
    cases hr : derive c item.file item.declaration with
    | ok p =>
      refine ⟨p, outcomes.filterMap fun o => o.2.classes?, rfl, by simp [Outcome.classes?], ?_, rfl⟩
      exact fun o ho => hall o (List.mem_cons_of_mem _ ho)
    | error refusal =>
      cases refusal with
      | unhinted fault => simp [hr, Outcome.hintFault?] at hh
      | problems diagnostics =>
        exact absurd (by simpa [hr, Outcome.diagnostics] using hd) (derive_problems_ne_nil hr)
  · rintro ⟨p, rest, hp, rfl, hall, hr⟩
    refine ⟨?_, by simp [hp, Outcome.classes?, ← hr]⟩
    intro o ho
    rcases List.mem_cons.mp ho with rfl | ho
    · simp [hp, Outcome.hintFault?, Outcome.diagnostics]
    · exact hall o ho

/-- No two of the declarations share a class name, and none has one that is owned before them. -/
structure NamesFree (c : Config) (owners declarations : List Declaration) : Prop where
  apart : declarations.Pairwise (ClassesApart c)
  unowned : ∀ d ∈ declarations, ∀ owner ∈ owners, ClassesApart c owner d

theorem namesFree_cons {c : Config} {owners declarations : List Declaration} {d : Declaration} :
    NamesFree c owners (d :: declarations) ↔
      (∀ owner ∈ owners, ClassesApart c owner d) ∧ NamesFree c (owners ++ [d]) declarations := by
  constructor
  · rintro ⟨hapart, hfree⟩
    obtain ⟨hfirst, hapart⟩ := List.pairwise_cons.mp hapart
    refine ⟨hfree d List.mem_cons_self, hapart, ?_⟩
    intro e he owner howner
    rcases List.mem_append.mp howner with howner | howner
    · exact hfree e (List.mem_cons_of_mem _ he) owner howner
    · rw [List.mem_singleton.mp howner]
      exact hfirst e he
  · rintro ⟨hfirst, hapart, hfree⟩
    refine ⟨List.pairwise_cons.mpr ⟨fun e he => hfree e he d (by simp), hapart⟩, ?_⟩
    intro e he owner howner
    rcases List.mem_cons.mp he with rfl | he
    · exact hfirst owner howner
    · exact hfree e he owner (List.mem_append_left _ howner)

/-- As long as every item succeeds, those before an item are the ones that own class names. -/
theorem outcomesFrom_succeed_iff {c : Config} {before : List Declaration} {items : List Item}
    {pairs : List ClassPair} :
    Succeed (outcomesFrom c before before items) pairs ↔
      items.Forall₂ (fun item p => derive c item.file item.declaration = .ok p) pairs ∧
        NamesFree c before (items.map Item.declaration) := by
  induction items generalizing before pairs with
  | nil =>
    have hfree : NamesFree c before [] := ⟨List.Pairwise.nil, by simp⟩
    cases pairs <;> simp [outcomesFrom, Succeed, hfree]
  | cons item items ih =>
    rw [List.map_cons, namesFree_cons]
    unfold outcomesFrom
    dsimp only
    split
    · rename_i first hf
      have hname : first.name = item.declaration.name := by simpa using List.find?_some hf
      refine iff_of_false (not_succeed_cons (by simp [Outcome.diagnostics])) ?_
      rintro ⟨_, hfree, _⟩
      exact hfree first (List.mem_of_find?_eq_some hf) List.mem_cons_self (by simp [hname])
    · split
      · rename_i hc
        rw [succeed_tried_iff, ← classClashes_eq_nil_iff]
        constructor
        · rintro ⟨p, rest, hp, rfl, hs⟩
          obtain ⟨hall, hfree⟩ := ih.mp hs
          exact ⟨.cons hp hall, hc, hfree⟩
        · rintro ⟨hall, _, hfree⟩
          obtain ⟨p, rest, hp, hrest, rfl⟩ := List.forall₂_cons_left_iff.mp hall
          exact ⟨p, rest, hp, rfl, ih.mpr ⟨hrest, hfree⟩⟩
      · rename_i hne
        refine iff_of_false (not_succeed_cons ?_) ?_
        · simpa [Outcome.diagnostics] using hne
        · rintro ⟨_, hfree, _⟩
          exact hne (classClashes_eq_nil_iff.mpr hfree)

/-- There is a module exactly if every declaration gets its classes when it is tried alone, and no
two of them share a class name. -/
theorem classes_eq_ok_iff {c : Config} {items : List Item} {pairs : List ClassPair} :
    classes c items = .ok pairs ↔
      items.Forall₂ (fun item p => derive c item.file item.declaration = .ok p) pairs ∧
        (items.map Item.declaration).Pairwise (ClassesApart c) := by
  have hfree : NamesFree c [] (items.map Item.declaration) ↔
      (items.map Item.declaration).Pairwise (ClassesApart c) :=
    ⟨NamesFree.apart, fun hapart => ⟨hapart, by simp⟩⟩
  rw [← hfree, ← outcomesFrom_succeed_iff]
  unfold classes outcomes
  dsimp only
  split
  · rename_i fault hf
    obtain ⟨o, ho, hfault⟩ := List.exists_of_findSome?_eq_some hf
    refine iff_of_false (by simp) ?_
    rintro ⟨hall, _⟩
    rw [(hall o ho).1] at hfault
    cases hfault
  · rename_i hf
    have hf := List.findSome?_eq_none_iff.mp hf
    split
    · rename_i hd
      have hd := List.flatMap_eq_nil_iff.mp hd
      simp only [Except.ok.injEq]
      exact ⟨fun h => ⟨fun o ho => ⟨hf o ho, hd o ho⟩, h⟩, fun h => h.2⟩
    · rename_i hne
      refine iff_of_false (by simp) ?_
      rintro ⟨hall, _⟩
      exact hne (List.flatMap_eq_nil_iff.mpr fun o ho => (hall o ho).2)

end RecordBuilders.Target
