import Mathlib.Data.List.Induction
import RecordBuilders.Proofs.Target.SourceModule

/-! A module in terms of its declarations, each derived by itself. The items of a list are tried one
after the other and claim names on the way. Main result: their order decides nothing but the order
of the text. -/
namespace RecordBuilders.Target
open Syntax

section Lists
variable {α β : Type} {R : α → β → Prop}

theorem exists_forall₂_iff {xs : List α} :
    (∃ ys, xs.Forall₂ R ys) ↔ ∀ x ∈ xs, ∃ y, R x y := by
  induction xs with
  | nil => simp
  | cons x xs ih =>
    rw [List.forall_mem_cons, ← ih]
    constructor
    · rintro ⟨_, hall⟩
      obtain ⟨y, ys, hx, hxs, rfl⟩ := List.forall₂_cons_left_iff.mp hall
      exact ⟨⟨y, hx⟩, ys, hxs⟩
    · rintro ⟨⟨y, hx⟩, ys, hxs⟩
      exact ⟨y :: ys, .cons hx hxs⟩

theorem forall_iff_of_forall₂ {P : α → Prop} {Q : β → Prop} {xs : List α} {ys : List β}
    (h : xs.Forall₂ R ys) (hr : ∀ x y, R x y → (P x ↔ Q y)) :
    (∀ x ∈ xs, P x) ↔ ∀ y ∈ ys, Q y := by
  induction h with
  | nil => simp
  | cons head _ ih => rw [List.forall_mem_cons, List.forall_mem_cons, hr _ _ head, ih]

/-- A symmetric relation does not ask which of two positions comes first. -/
theorem pairwise_iff_of_symm {S : α → α → Prop} (hS : ∀ {a b}, S a b → S b a) {xs : List α} :
    xs.Pairwise S ↔
      ∀ i j (hi : i < xs.length) (hj : j < xs.length), i ≠ j → S xs[i] xs[j] := by
  rw [List.pairwise_iff_getElem]
  constructor
  · intro h i j hi hj hne
    rcases Nat.lt_or_gt_of_ne hne with hlt | hlt
    · exact h i j hi hj hlt
    · exact hS (h j i hj hi hlt)
  · intro h i j hi hj hlt
    exact h i j hi hj (Nat.ne_of_lt hlt)

end Lists

theorem moduleText_eq (pairs : List ClassPair) :
    moduleText pairs = header ++ String.join (pairs.map fun p => "\n\n" ++ p.text) := by
  unfold moduleText
  induction pairs using List.reverseRecOn with
  | nil => simp
  | append_singleton pairs p ih =>
    rw [List.foldl_append, ih]
    simp [String.append_assoc]

section Generation
variable {c : Config} {items : List Item} {text : String}

theorem generate_eq_ok_iff :
    generate c items = .ok text ↔ ∃ pairs, classes c items = .ok pairs ∧ moduleText pairs = text :=
  map_eq_ok_iff

theorem generate_isOk_iff : (∃ text, generate c items = .ok text) ↔
    (∀ item ∈ items, ∃ p, derive c item.file item.declaration = .ok p) ∧
      items.Pairwise fun item other => ClassesApart c item.declaration other.declaration := by
  rw [← exists_forall₂_iff, ← List.pairwise_map]
  simp only [generate_eq_ok_iff, classes_eq_ok_iff]
  constructor
  · rintro ⟨_, pairs, ⟨hall, hapart⟩, _⟩
    exact ⟨⟨pairs, hall⟩, hapart⟩
  · rintro ⟨⟨pairs, hall⟩, hapart⟩
    exact ⟨_, pairs, ⟨hall, hapart⟩, rfl⟩

end Generation

theorem classes_single (c : Config) (item : Item) :
    classes c [item] = (fun p => [p]) <$> derive c item.file item.declaration := by
  have hone : outcomes c [item] = [(item, .tried (derive c item.file item.declaration))] := by
    simp [outcomes, outcomesFrom, classClashes]
  unfold classes
  rw [hone]
  cases hd : derive c item.file item.declaration with
  | ok p => simp [Outcome.hintFault?, Outcome.diagnostics, Outcome.classes?]
  | error refusal =>
    cases refusal with
    | unhinted fault => simp [Outcome.hintFault?]
    | problems diagnostics =>
      cases diagnostics with
      | nil => exact absurd rfl (derive_problems_ne_nil hd)
      | cons d ds => simp [Outcome.hintFault?, Outcome.diagnostics]

/-- For all configurations, what `generate` makes of items is a matter of the items by themselves
and of the names of their records and builders, of which no two items may share any: whether there is
a module, which text it has, and for one item also why there is none. -/
theorem generate_by_declaration (c : Config) :
    (∀ items, (∃ text, generate c items = .ok text) ↔
      (∀ item ∈ items, ∃ p, derive c item.file item.declaration = .ok p) ∧
        ∀ i j (hi : i < items.length) (hj : j < items.length), i ≠ j →
          [items[i].declaration.name, c.builderName items[i].declaration.name].Disjoint
            [items[j].declaration.name, c.builderName items[j].declaration.name]) ∧
    (∀ items items', items.Perm items' →
      ((∃ text, generate c items = .ok text) ↔ ∃ text, generate c items' = .ok text)) ∧
    (∀ items text, generate c items = .ok text → ∃ pairs,
      items.Forall₂ (fun item p => derive c item.file item.declaration = .ok p) pairs ∧
        text = header ++ String.join (pairs.map fun p => "\n\n" ++ p.text)) ∧
    ∀ item, generate c [item] =
      (fun p => moduleText [p]) <$> derive c item.file item.declaration := by
  have hsymm {item other : Item} (h : ClassesApart c item.declaration other.declaration) :
      ClassesApart c other.declaration item.declaration := h.symm
  refine ⟨fun items => ?_, fun items items' hperm => ?_, fun items text h => ?_, fun item => ?_⟩
  · rw [generate_isOk_iff, pairwise_iff_of_symm hsymm]
    rfl
  · rw [generate_isOk_iff, generate_isOk_iff, hperm.pairwise_iff hsymm]
    simp only [hperm.mem_iff]
  · obtain ⟨pairs, hc, rfl⟩ := generate_eq_ok_iff.mp h
    exact ⟨pairs, (classes_eq_ok_iff.mp hc).1, moduleText_eq pairs⟩
  · rw [generate, classes_single]
    cases derive c item.file item.declaration <;> rfl

/-- The classes of a record without fields. -/
def emptyPair (record : String) : ClassPair where
  record
  builder := record ++ "Builder"
  factory := "builder"
  buildMethod := "build"
  members := []

theorem generate_empty_records :
    ∃ text, generate .default (itemsOf "struct A; struct B \x7b\x7d").reverse = .ok text := by
  have hc : classes .default (itemsOf "struct A; struct B \x7b\x7d") =
      .ok [emptyPair "A", emptyPair "B"] := by cbv
  obtain ⟨_, horder, _⟩ := generate_by_declaration .default
  exact (horder _ _ (List.reverse_perm _)).mpr ⟨_, generate_eq_ok_iff.mpr ⟨_, hc, rfl⟩⟩

end RecordBuilders.Target
