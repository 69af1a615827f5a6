import RecordBuilders.Proofs.Builder.Layout

/-! New builders. Where a factory gives one at all, every member has its initial value, unless another
member works on the same attribute. -/
namespace RecordBuilders
open Target Text

/-- The module was loaded from classes whose declarations come from source texts. Each hint is one
expression: with a comma or an equals sign of its own it would add parameters or defaults to the
methods that it is written into, and they could be called in other ways. -/
structure LoadedModule.IsFrom (m : LoadedModule) (c : Config) (items : List Item) : Prop where
  sources : FromSources c items m.pairs
  load : LoadedModule.load c m.pairs = .ok m
  hints : ∀ p ∈ m.pairs, ∀ f ∈ p.members,
    Code.isExpression f.declaredHint = true ∧ Code.isExpression f.valueHint = true

/-- A factory of the module gives builders of this class. -/
def LoadedModule.Creates (m : LoadedModule) (p : ClassPair) : Prop :=
  ∃ record b, m.create record = .ok (.builder b) ∧ b.classes = p

namespace Target.ClassPair
variable {c : Config} {p : ClassPair}

theorem WellNamed.storage_eq (h : p.WellNamed c) {f : HintedMember} (hf : f ∈ p.members) :
    p.storage f.toMember = mangled p.builderClass f.slot := by
  have hw : IsWord f.slot := (h.names_isWord f hf).slot
  rw [storage, builderName, hw.canonical_eq]

theorem WellNamed.storages_eq (h : p.WellNamed c) :
    (p.members.map fun f => p.storage f.toMember) = p.slotNames :=
  List.map_congr_left fun _ hf => h.storage_eq hf

/-- The name of a field is no private name, so it is a name of the record class as it is. -/
theorem WellNamed.recordName_name (h : p.WellNamed c) {f : HintedMember} (hf : f ∈ p.members) :
    p.recordName f.name = f.name := by
  have hu := (h.apart.fields f.toMember (List.mem_map_of_mem hf)).1
  simp only [isUnusable, Bool.or_eq_false_iff] at hu
  rw [recordName, (h.names_isWord f hf).canonical_eq, mangled_eq_self hu.2]

end Target.ClassPair

namespace Builder
variable {m : LoadedModule} {p : ClassPair} {b : Builder}

theorem lookup_write (b : Builder) (name key : String) (value : Json) :
    (b.write name value).slots.lookup key = if key = name then some value else b.slots.lookup key :=
  Json.lookup_setMember name key value b.slots

theorem write_classes (b : Builder) (name : String) (value : Json) :
    (b.write name value).classes = b.classes :=
  rfl

/-- One member after the other gets its initial value. -/
theorem slots_of_foldlM {members : List HintedMember} {start : Builder}
    (h : members.foldlM (assignInitial p) start = .ok b) :
    b.classes = start.classes ∧
      (∀ name ∉ members.map (fun f => p.storage f.toMember),
        b.slots.lookup name = start.slots.lookup name) ∧
      ((members.map fun f => p.storage f.toMember).Nodup →
        ∀ f ∈ members, b.slots.lookup (p.storage f.toMember) = some f.initialValue) := by
  induction members generalizing start with
  | nil =>
    cases h
    exact ⟨rfl, fun _ _ => rfl, by simp⟩
  | cons f members ih =>
    rw [List.foldlM_cons] at h
    obtain ⟨next, hn, h⟩ := bind_eq_ok_iff.mp h
    unfold assignInitial at hn
    split at hn
    · cases hn
    · cases hn
      obtain ⟨hc, hkept, hset⟩ := ih h
      refine ⟨hc, ?_, ?_⟩
      · intro name hname
        rw [List.map_cons, List.mem_cons, not_or] at hname
        rw [hkept name hname.2, lookup_write, if_neg hname.1]
      · intro hd g hg
        obtain ⟨hf, hd⟩ := List.nodup_cons.mp hd
        rcases List.mem_cons.mp hg with rfl | hg
        · rw [hkept _ hf, lookup_write, if_pos rfl]
        · exact hset hd g hg

theorem slots_of_initial (h : initial p = .ok b) :
    b.classes = p ∧ ((p.members.map fun f => p.storage f.toMember).Nodup →
      ∀ f ∈ p.members, b.slots.lookup (p.storage f.toMember) = some f.initialValue) := by
  obtain ⟨hc, _, hset⟩ := slots_of_foldlM h
  exact ⟨hc, hset⟩

/-- A class gives builders only if no other method takes the place of its initializer. -/
theorem new_eq_ok (h : new m p = .ok b) :
    initial p = .ok b ∧
      ∀ method, p.method? initializerName = some method → method = .initializer := by
  unfold new at h
  split at h
  · cases h
  · split at h
    · cases h
    · cases h
    · obtain ⟨_, _, h⟩ := bind_eq_ok_iff.mp h
      cases h
    · rename_i hs hb
      refine ⟨mapError_eq_ok_iff.mp h, ?_⟩
      intro method hm
      cases method with
      | initializer => rfl
      | setter action storage => exact absurd hm (hs action storage)
      | build => exact absurd hm hb

end Builder

namespace LoadedModule
variable {m : LoadedModule} {name : String} {p : ClassPair}

theorem mem_pairs_of_builder (h : .builder p ∈ m.classes) : p ∈ m.pairs := by
  obtain ⟨q, hq, hk⟩ := List.mem_flatMap.mp h
  simp only [List.mem_cons, reduceCtorEq, LoadedClass.builder.injEq, List.not_mem_nil, or_false,
    false_or] at hk
  rwa [hk]

theorem mem_pairs_of_record (h : .record p ∈ m.classes) : p ∈ m.pairs := by
  obtain ⟨q, hq, hk⟩ := List.mem_flatMap.mp h
  simp only [List.mem_cons, reduceCtorEq, LoadedClass.record.injEq, List.not_mem_nil, or_false] at hk
  rwa [hk]

theorem inheritedFactory_ne_builder {className factory : String} {b : Builder} :
    inheritedFactory className factory ≠ .ok (.builder b) := by
  unfold inheritedFactory
  split <;> simp

/-- Only a factory of a record class makes builders. -/
theorem create_eq_builder {b : Builder} (h : m.create name = .ok (.builder b)) :
    ∃ p ∈ m.pairs, Builder.new m p = .ok b := by
  unfold create at h
  split at h
  · split at h
    · unfold produce at h
      dsimp only at h
      split at h
      · cases h
      · rename_i p hp
        obtain ⟨found, hf, he⟩ := map_eq_ok_iff.mp h
        cases he
        exact ⟨p, mem_pairs_of_builder (class?_mem hp).1, hf⟩
      · split at h
        · cases h
        · cases h
    · cases h
  · have h := mapError_eq_ok_iff.mp h
    unfold misuse at h
    dsimp only at h
    split at h
    · cases h
    · cases h
    · cases h
    · exact absurd h inheritedFactory_ne_builder
  · have h := mapError_eq_ok_iff.mp h
    unfold foreignFactory at h
    split at h
    · cases h
    · exact absurd h inheritedFactory_ne_builder
    · cases h

theorem builderFault?_of_load {c : Config} (h : load c m.pairs = .ok m) (hp : p ∈ m.pairs) :
    p.builderFault? = none := by
  unfold load at h
  split at h
  · cases h
  · split at h
    · cases h
    · rename_i hn
      have hp := List.findSome?_eq_none_iff.mp hn p hp
      simp only [Option.orElse_eq_orElse, Option.orElse_eq_or, Option.or_eq_none_iff] at hp
      exact hp.2

theorem load_eq_ok {c : Config} {pairs : List ClassPair}
    (ht : Code.fault? (moduleText pairs) = none)
    (hp : ∀ p ∈ pairs, p.recordFault? = none ∧ p.builderFault? = none) :
    load c pairs = .ok ⟨c.factoryName, c.buildMethod, pairs⟩ := by
  have hn : (pairs.findSome? fun p => p.recordFault? <|> p.builderFault?) = none := by
    rw [List.findSome?_eq_none_iff]
    intro p hmem
    obtain ⟨hr, hb⟩ := hp p hmem
    rw [hr, hb]
    rfl
  simp only [load, ht, hn]

/-- What is known of a class that builders come from. -/
structure Provides (m : LoadedModule) (c : Config) (p : ClassPair) : Prop where
  mem : p ∈ m.pairs
  wellNamed : p.WellNamed c
  unfaulted : p.builderFault? = none
  initializer : ∀ method, p.method? initializerName = some method → method = .initializer

variable {c : Config} {items : List Item}

theorem IsFrom.new_of_create {b : Builder} (h : m.IsFrom c items)
    (hc : m.create name = .ok (.builder b)) :
    m.Provides c b.classes ∧ Builder.initial b.classes = .ok b := by
  obtain ⟨p, hp, hn⟩ := create_eq_builder hc
  obtain ⟨hi, hm⟩ := Builder.new_eq_ok hn
  obtain ⟨rfl, _⟩ := Builder.slots_of_initial hi
  exact ⟨⟨hp, h.sources.wellNamed _ hp, builderFault?_of_load h.load hp, hm⟩, hi⟩

theorem IsFrom.provides (h : m.IsFrom c items) (hc : m.Creates p) : m.Provides c p := by
  obtain ⟨name, b, hc, rfl⟩ := hc
  exact (h.new_of_create hc).1

end LoadedModule

section Die

/-- The module of a record with one required field. -/
def dieModule : LoadedModule := ⟨"builder", "build", [diePair]⟩

theorem toList_moduleText_singleton (p : ClassPair) :
    (moduleText [p]).toList =
      header.toList ++ '\n' :: '\n' :: ['\n'].intercalate (p.lines.map String.toList) ++
        ['\n'] := by
  have hend : "\n".toList = ['\n'] := by decide
  have hgap : "\n\n".toList = ['\n', '\n'] := by decide
  rw [moduleText, List.foldl_cons, List.foldl_nil, ClassPair.text, String.toList_append,
    String.toList_append, String.toList_append, String.toList_intercalate, hend, hgap]
  simp only [List.append_assoc, List.cons_append, List.nil_append]

theorem toList_header :
    header.toList =
      "# Generated by strict-builder. Do not edit.\n".toList ++
        "from __future__ import annotations\n".toList ++
        "\n".toList ++
        "from dataclasses import dataclass as _dataclass\n".toList ++
        "from typing import Optional\n".toList ++
        "\n".toList ++
        "from strict_builder.runtime import MissingFieldError as _MissingFieldError\n".toList := by
  delta header
  simp only [String.toList_append, -String.reduceToList, -String.reduceAppend]

set_option maxRecDepth 20000 in
/-- The text is put together from the characters of its lines, since the kernel is slow at joining
strings. -/
theorem diePair_legal : Code.fault? (moduleText [diePair]) = none := by
  delta Code.fault?
  rw [toList_moduleText_singleton, toList_header]
  decide +kernel

theorem dieModule_isFrom : dieModule.IsFrom .default (itemsOf "struct Die { face: u8 }") where
  sources := diePair_fromSources
  load := by
    refine LoadedModule.load_eq_ok (c := .default) diePair_legal ?_
    intro p hp
    rw [List.mem_singleton.mp hp]
    exact ⟨Option.isNone_iff_eq_none.mp (by decide +kernel),
      Option.isNone_iff_eq_none.mp (by decide +kernel)⟩
  hints := by decide +kernel

theorem eq_diePair_of_creates {p : ClassPair} (h : dieModule.Creates p) : p = diePair :=
  List.mem_singleton.mp (dieModule_isFrom.provides h).mem

/-- The builder that a factory gave back. -/
def Product.builder? : Product → Option Builder
  | .builder b => some b
  | .other _ => none

theorem dieModule_creates : dieModule.Creates diePair := by
  have hmade : ((dieModule.create "Die").toOption.bind Product.builder?).isSome = true := by
    decide +kernel
  cases hc : dieModule.create "Die" with
  | error fault =>
    rw [hc] at hmade
    cases hmade
  | ok product =>
    rw [hc] at hmade
    cases product with
    | builder b => exact ⟨"Die", b, hc, eq_diePair_of_creates ⟨"Die", b, hc, rfl⟩⟩
    | other className => cases hmade

end Die
end RecordBuilders
