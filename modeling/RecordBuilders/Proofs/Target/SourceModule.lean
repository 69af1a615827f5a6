import Mathlib
import RecordBuilders.Proofs.Syntax.SourceNames
import RecordBuilders.Proofs.Target.Derivation
import RecordBuilders.Proofs.Text.Normalized

/-! Modules whose declarations were read from source texts. The names of their records and fields are
words, so in code they stand for themselves. -/
namespace RecordBuilders
open Syntax Target Text

/-- The declaration is one of those that were read from some source text. -/
def Syntax.Declaration.FromSource (d : Declaration) : Prop :=
  ∃ source declarations, parse source = .ok declarations ∧ d ∈ declarations

theorem Syntax.Declaration.FromSource.namesWords {d : Declaration} (h : d.FromSource) :
    d.NamesWords := by
  obtain ⟨_, _, hp, hd⟩ := h
  exact namesWords_of_parse hp d hd

namespace Config
variable {c : Config}

/-- Every member was made of a field of its name. -/
theorem isWord_name_of_members {d : Declaration} {members : List Member} (hd : d.NamesWords)
    (h : c.members d = .ok members) : ∀ m ∈ members, IsWord m.name := by
  intro m hm
  obtain ⟨f, hf, hc⟩ := exists_classify_of_members h m hm
  exact hd.fields f hf m.name (name_of_classify hc)

end Config

namespace Target

/-- The pairs of classes are those of a module for these items, and the items come from source
texts. -/
structure FromSources (c : Config) (items : List Item) (pairs : List ClassPair) : Prop where
  declarations : ∀ item ∈ items, item.declaration.FromSource
  classes : classes c items = .ok pairs

variable {c : Config} {items : List Item} {pairs : List ClassPair}

theorem FromSources.isFor (h : FromSources c items pairs) :
    items.Forall₂ (fun item p => p.IsFor c item.declaration) pairs :=
  (classes_eq_ok_iff.mp h.classes).1.imp fun _ _ hd => ClassPair.isFor_of_derive hd

/-- The declarations of one source text, as items of a module. There are none in an illegal text. -/
def itemsOf (source : String) : List Item :=
  ((parse source).toOption.getD []).map fun d => { declaration := d }

theorem FromSources.of_itemsOf {source : String}
    (h : Target.classes c (itemsOf source) = .ok pairs) : FromSources c (itemsOf source) pairs where
  classes := h
  declarations := by
    intro item hi
    obtain ⟨d, hd, rfl⟩ := List.mem_map.mp hi
    cases hp : parse source with
    | error fault => simp [hp, Except.toOption] at hd
    | ok declarations =>
      rw [hp] at hd
      exact ⟨source, declarations, hp, hd⟩

/-- What is known of a pair of classes of such a module. -/
structure ClassPair.WellNamed (c : Config) (p : ClassPair) : Prop where
  builder : p.builder = c.builderName p.record
  factory : p.factory = c.factoryName
  buildMethod : p.buildMethod = c.buildMethod
  record_isWord : IsWord p.record
  names_isWord : ∀ m ∈ p.members, IsWord m.name
  apart : c.NamesApart p.record (p.members.map HintedMember.toMember)

theorem ClassPair.IsFor.wellNamed {d : Declaration} {p : ClassPair} (h : p.IsFor c d)
    (hd : d.NamesWords) : p.WellNamed c := by
  have ha := Config.NamesApart.of_members h.members
  refine ⟨?_, h.factory, h.buildMethod, ?_, ?_, ?_⟩
  · rw [h.builder, h.record]
  · rw [h.record]
    exact hd.name
  · intro m hm
    exact Config.isWord_name_of_members hd h.members m.toMember (List.mem_map_of_mem hm)
  · rw [h.record]
    exact ha

theorem FromSources.wellNamed (h : FromSources c items pairs) : ∀ p ∈ pairs, p.WellNamed c := by
  intro p hp
  obtain ⟨item, hi, hf⟩ : ∃ item ∈ items, p.IsFor c item.declaration := by
    have hall := h.isFor
    clear h
    induction hall with
    | nil => cases hp
    | cons hf _ ih =>
      rcases List.mem_cons.mp hp with rfl | hp
      · exact ⟨_, List.mem_cons_self, hf⟩
      · obtain ⟨item, hi, hf⟩ := ih hp
        exact ⟨item, List.mem_cons_of_mem _ hi, hf⟩
  exact hf.wellNamed (h.declarations item hi).namesWords

/-- The classes of a record with one required field. -/
def diePair : ClassPair where
  record := "Die"
  builder := "DieBuilder"
  factory := "builder"
  buildMethod := "build"
  members := [{
    name := "face"
    declared := .path [.plain "u8"]
    role := .required
    location := some ⟨1, 14⟩
    declaredHint := "int"
    valueHint := "int" }]

theorem diePair_fromSources :
    FromSources .default (itemsOf "struct Die { face: u8 }") [diePair] :=
  .of_itemsOf (by cbv)

end Target
end RecordBuilders
