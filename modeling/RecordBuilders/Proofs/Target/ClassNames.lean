import RecordBuilders.Builder.Session
import RecordBuilders.Proofs.Target.SourceModule

/-! The classes of a module by their names. The check of names compares texts; what a reference in
the code stands for is decided by canonical names, and within a method by the receiver too. -/
namespace RecordBuilders
open Syntax Target Text

/-- The name that the class statement of a class defines. -/
def LoadedClass.name : LoadedClass → String
  | .record p => p.recordClass
  | .builder p => p.builderClass

namespace LoadedModule

/-- The classes in the order of their statements. -/
def classes (m : LoadedModule) : List LoadedClass :=
  m.pairs.flatMap fun p => [.record p, .builder p]

/-- The names that the class statements define. -/
def definedNames (m : LoadedModule) : List String := m.classes.map LoadedClass.name

/-- The same names as they are written in the text of the module. -/
def writtenNames (m : LoadedModule) : List String := m.pairs.flatMap fun p => [p.record, p.builder]

section Lookup
variable {m : LoadedModule} {name : String}

/-- A name is looked up among the classes, the last one first. -/
theorem class?_eq_find? : m.class? name = m.classes.reverse.find? fun k => k.name = name := by
  rw [class?, classes, List.reverse_flatMap]
  induction m.pairs.reverse with
  | nil => rfl
  | cons p pairs ih =>
    rw [List.findSome?_cons, List.flatMap_cons, List.find?_append, ← ih]
    by_cases hb : p.builderClass = name
    · simp [LoadedClass.name, hb]
    · by_cases hr : p.recordClass = name
      · simp [LoadedClass.name, hb, hr]
      · simp [LoadedClass.name, hb, hr]

theorem class?_mem {k : LoadedClass} (h : m.class? name = some k) :
    k ∈ m.classes ∧ k.name = name := by
  rw [class?_eq_find?] at h
  exact ⟨List.mem_reverse.mp (List.mem_of_find?_eq_some h), by simpa using List.find?_some h⟩

theorem class?_isSome {k : LoadedClass} (h : k ∈ m.classes) : (m.class? k.name).isSome := by
  rw [class?_eq_find?, List.find?_isSome]
  exact ⟨k, List.mem_reverse.mpr h, by simp⟩

theorem classes_nodup (h : m.pairs.Nodup) : m.classes.Nodup := by
  rw [classes, List.nodup_flatMap]
  refine ⟨fun p _ => by simp, h.imp ?_⟩
  intro p q hne k hp hq
  simp only [List.mem_cons, List.not_mem_nil, or_false] at hp hq
  rcases hp with rfl | rfl
  · rcases hq with he | he
    · exact hne (LoadedClass.record.inj he)
    · cases he
  · rcases hq with he | he
    · cases he
    · exact hne (LoadedClass.builder.inj he)

/-- Class names are distinct exactly if each class is found under its own name. -/
theorem definedNames_nodup_iff (h : m.pairs.Nodup) :
    m.definedNames.Nodup ↔ ∀ k ∈ m.classes, m.class? k.name = some k := by
  constructor
  · intro hn k hk
    obtain ⟨found, hf⟩ := Option.isSome_iff_exists.mp (class?_isSome hk)
    obtain ⟨hm, he⟩ := class?_mem hf
    rw [hf, List.inj_on_of_nodup_map hn hm hk he]
  · intro hall
    refine (classes_nodup h).map_on fun k hk l hl he => ?_
    have hkl := hall k hk
    rw [he, hall l hl] at hkl
    exact (Option.some.inj hkl).symm

end Lookup
end LoadedModule

namespace Target.ClassPair

/-- What the names of classes in the bodies of the two classes stand for: the factory calls the own
builder class, and the build method calls the own record class. -/
structure RefersToItself (m : LoadedModule) (p : ClassPair) : Prop where
  factory : m.class? (p.recordName p.builder) = some (.builder p)
  build : m.class? (p.builderName p.record) = some (.record p)
  unhidden : p.builderName p.record ≠ receiverName

section Names
variable {c : Config} {p : ClassPair}

theorem isGuarded_iff {name : String} :
    isGuarded name = true ↔ ∃ cs, name.toList = '_' :: '_' :: cs := by
  rw [isGuarded, List.isPrefixOf_iff_prefix]
  constructor
  · rintro ⟨cs, h⟩
    exact ⟨cs, h.symm⟩
  · rintro ⟨cs, h⟩
    exact ⟨cs, h.symm⟩

theorem WellNamed.recordClass_eq (h : p.WellNamed c) : p.recordClass = p.record :=
  h.record_isWord.canonical_eq

theorem WellNamed.record_not_guarded (h : p.WellNamed c) : isGuarded p.record = false := by
  have hu := h.apart.record_usable
  simp only [isUnusableForClass, isUnusable, Bool.or_eq_false_iff] at hu
  exact hu.1.2

/-- The record class is referred to by its own name, which is never private. -/
theorem WellNamed.builderName_record (h : p.WellNamed c) :
    p.builderName p.record = p.recordClass := by
  rw [builderName, h.record_isWord.canonical_eq, mangled_eq_self h.record_not_guarded,
    h.recordClass_eq]

theorem not_isBlank_of_isIdentifierPart {d : Char} (h : isIdentifierPart d = true) :
    (d == ' ' || d == '\t' || d == '\x0c') = false := by
  refine Bool.eq_false_iff.mpr fun hb => ?_
  simp only [Bool.or_eq_true, beq_iff_eq] at hb
  rcases hb with (rfl | rfl) | rfl
  · exact absurd h (by decide +kernel)
  · exact absurd h (by decide +kernel)
  · exact absurd h (by decide +kernel)

theorem not_isBlank_of_suffix (c : Config) :
    ∀ d ∈ c.builderSuffix.toList, (d == ' ' || d == '\t' || d == '\x0c') = false := by
  have hu := c.builderSuffix_usable
  have hparts : c.builderSuffix.toList.all isIdentifierPart = true := by
    simp only [isUsable, isIdentifier, String.toList_append, Bool.and_eq_true] at hu
    exact (Bool.and_eq_true_iff.mp hu.1).2
  exact fun d hd => not_isBlank_of_isIdentifierPart (List.all_eq_true.mp hparts d hd)

theorem WellNamed.builderClass_eq (h : p.WellNamed c) : p.builderClass = nfkc p.builder := by
  apply canonical_eq_nfkc
  intro d hd
  rw [h.builder, Config.builderName, String.toList_append] at hd
  rcases List.mem_append.mp hd with hd | hd
  · have hpart := isIdentifierPart_of_isWordPart (h.record_isWord.parts d hd)
    exact not_isBlank_of_isIdentifierPart hpart
  · exact not_isBlank_of_suffix c d hd

theorem WellNamed.builderClass_ascii (h : p.WellNamed c)
    (hs : ∀ d ∈ c.builderSuffix.toList, d.toNat < 0x80) : p.builderClass = p.builder := by
  rw [h.builderClass_eq]
  apply nfkc_eq_self
  intro d hd
  rw [h.builder, Config.builderName, String.toList_append] at hd
  rcases List.mem_append.mp hd with hd | hd
  · exact toNat_lt_of_isWordPart (h.record_isWord.parts d hd)
  · exact hs d hd

/-- A builder class can only get a guarded name if the record is called by a single underscore. -/
theorem WellNamed.record_of_guarded (h : p.WellNamed c) (hg : isGuarded p.builderClass = true) :
    p.record = "_" := by
  obtain ⟨cs, d, hcd⟩ : ∃ cs d, p.record.toList = cs ++ [d] := by
    rcases List.eq_nil_or_concat' p.record.toList with hn | hc
    · obtain ⟨_, _, hs, _⟩ := h.record_isWord
      rw [hn] at hs
      cases hs
    · exact hc
  have hparts := h.record_isWord.parts
  rw [hcd] at hparts
  have hb : p.builder.toList = cs ++ d :: c.builderSuffix.toList := by
    rw [h.builder, Config.builderName, String.toList_append, hcd, List.append_assoc,
      List.singleton_append]
  obtain ⟨next, after, hn, hnext⟩ := nfkc_ascii_append hb
    (fun x hx => toNat_lt_of_isWordPart (hparts x (List.mem_append_left _ hx)))
    (toNat_lt_of_isWordPart (hparts d (by simp)))
  rw [h.builderClass_eq] at hg
  obtain ⟨behind, hb⟩ := isGuarded_iff.mp hg
  rw [hn] at hb
  have hlast (hu : next = '_') : d = '_' := hnext.elim (fun he => he ▸ hu) (fun he => absurd hu he)
  have hfree (ds : List Char) : cs ++ [d] ≠ '_' :: '_' :: ds := by
    intro he
    have hg := isGuarded_iff.mpr ⟨ds, hcd.trans he⟩
    rw [h.record_not_guarded] at hg
    cases hg
  rcases cs with _ | ⟨a, _ | ⟨b, cs⟩⟩
  · obtain ⟨hu, _⟩ := List.cons.inj hb
    rw [← String.ofList_toList (s := p.record), hcd, hlast hu]
    rfl
  · obtain ⟨ha, hb⟩ := List.cons.inj hb
    obtain ⟨hu, _⟩ := List.cons.inj hb
    exact absurd (by rw [ha, hlast hu]; rfl) (hfree [])
  · obtain ⟨ha, hb⟩ := List.cons.inj hb
    obtain ⟨hb, _⟩ := List.cons.inj hb
    exact absurd (by rw [ha, hb]; rfl) (hfree (cs ++ [d]))

/-- Within the record class, too, the builder class goes by its own name: a private name would need
the name of the class, and there is nothing but an underscore in it. -/
theorem WellNamed.recordName_builder (h : p.WellNamed c) :
    p.recordName p.builder = p.builderClass := by
  by_cases hg : isGuarded p.builderClass = true
  · have hr : p.recordClass = "_" := by rw [h.recordClass_eq, h.record_of_guarded hg]
    simp [recordName, mangled, hr, builderClass]
  · exact mangled_eq_self (Bool.eq_false_iff.mpr hg)

/-- Both classes are referred to by the names that they were defined under. -/
theorem WellNamed.refersToItself_iff (h : p.WellNamed c) {m : LoadedModule} :
    p.RefersToItself m ↔
      m.class? p.recordClass = some (.record p) ∧ m.class? p.builderClass = some (.builder p) ∧
        p.record ≠ receiverName := by
  constructor
  · rintro ⟨hf, hb, hu⟩
    rw [h.recordName_builder] at hf
    rw [h.builderName_record] at hb
    rw [h.builderName_record, h.recordClass_eq] at hu
    exact ⟨hb, hf, hu⟩
  · rintro ⟨hb, hf, hu⟩
    refine ⟨?_, ?_, ?_⟩
    · rw [h.recordName_builder]
      exact hf
    · rw [h.builderName_record]
      exact hb
    · rw [h.builderName_record, h.recordClass_eq]
      exact hu

end Names
end Target.ClassPair

namespace Target.FromSources
variable {c : Config} {items : List Item} {m : LoadedModule}

theorem flatMap_names_eq {pairs : List ClassPair} (h : FromSources c items pairs) :
    pairs.flatMap (fun p => [p.record, p.builder]) =
      (items.map Item.declaration).flatMap (classNames c) := by
  have hall := h.isFor
  clear h
  induction hall with
  | nil => rfl
  | cons hf _ ih =>
    rw [List.flatMap_cons, List.map_cons, List.flatMap_cons, ih, hf.record, hf.builder, classNames]

theorem writtenNames_nodup_iff (h : FromSources c items m.pairs) :
    m.writtenNames.Nodup ↔ c.builderSuffix ≠ "" ∨ items = [] := by
  have hown (d : Declaration) : (classNames c d).Nodup ↔ c.builderSuffix ≠ "" := by
    simp [classNames, Config.builderName, List.nodup_cons, eq_comm (a := d.name)]
  have hapart : (items.map Item.declaration).Pairwise
      fun d e => (classNames c d).Disjoint (classNames c e) :=
    (classes_eq_ok_iff.mp h.classes).2
  rw [LoadedModule.writtenNames, h.flatMap_names_eq, List.nodup_flatMap]
  constructor
  · rintro ⟨hall, _⟩
    cases items with
    | nil => exact Or.inr rfl
    | cons item items => exact Or.inl ((hown item.declaration).mp (hall _ (by simp)))
  · rintro (hs | rfl)
    · exact ⟨fun d _ => (hown d).mpr hs, hapart⟩
    · exact ⟨by simp, hapart⟩

theorem records_nodup {pairs : List ClassPair} (h : FromSources c items pairs) :
    (pairs.map ClassPair.record).Nodup := by
  have he : pairs.map ClassPair.record = (items.map Item.declaration).map Declaration.name := by
    have hall := h.isFor
    clear h
    induction hall with
    | nil => rfl
    | cons hf _ ih => rw [List.map_cons, List.map_cons, List.map_cons, ih, hf.record]
  rw [he]
  refine List.pairwise_map.mpr ((classes_eq_ok_iff.mp h.classes).2.imp ?_)
  intro d e hd hn
  exact hd List.mem_cons_self (by simp [hn])

theorem refersToItself_iff (h : FromSources c items m.pairs) :
    (∀ p ∈ m.pairs, p.RefersToItself m) ↔
      m.definedNames.Nodup ∧ ∀ p ∈ m.pairs, p.record ≠ receiverName := by
  rw [LoadedModule.definedNames_nodup_iff h.records_nodup.of_map]
  constructor
  · intro hall
    refine ⟨?_, fun p hp => ((h.wellNamed p hp).refersToItself_iff.mp (hall p hp)).2.2⟩
    intro k hk
    obtain ⟨p, hp, hk⟩ := List.mem_flatMap.mp hk
    obtain ⟨hr, hb, _⟩ := (h.wellNamed p hp).refersToItself_iff.mp (hall p hp)
    rcases List.mem_cons.mp hk with rfl | hk
    · exact hr
    · rw [List.mem_singleton.mp hk]
      exact hb
  · rintro ⟨hall, hu⟩ p hp
    have hmem (k : LoadedClass) (hk : k ∈ [.record p, .builder p]) : m.class? k.name = some k :=
      hall k (List.mem_flatMap.mpr ⟨p, hp, hk⟩)
    exact (h.wellNamed p hp).refersToItself_iff.mpr
      ⟨hmem (.record p) (by simp), hmem (.builder p) (by simp), hu p hp⟩

/-- The class names of a module as they are written are usable, and they are distinct unless nothing
is put behind the name of a record. The names that they define are the same if the suffix is ASCII
text. Each reference stands for the class of its own declaration exactly if the defined names are
distinct and no record is named like the receiver of methods. A pair stands for the two class
statements that are emitted for its declaration; hints with a semicolon or a line break in them, which
may add statements of their own, are not looked into. -/
theorem class_names (h : FromSources c items m.pairs) :
    (m.writtenNames.Nodup ↔ c.builderSuffix ≠ "" ∨ items = []) ∧
    (∀ name ∈ m.writtenNames, isUnusableForClass name = false) ∧
    ((∀ d ∈ c.builderSuffix.toList, d.toNat < 0x80) → m.definedNames = m.writtenNames) ∧
    ((∀ p ∈ m.pairs, p.RefersToItself m) ↔
      m.definedNames.Nodup ∧ ∀ p ∈ m.pairs, p.record ≠ receiverName) := by
  refine ⟨h.writtenNames_nodup_iff, ?_, ?_, h.refersToItself_iff⟩
  · intro name hn
    obtain ⟨p, hp, hn⟩ := List.mem_flatMap.mp hn
    have hw := h.wellNamed p hp
    rcases List.mem_cons.mp hn with rfl | hn
    · exact hw.apart.record_usable
    · rw [List.mem_singleton.mp hn, hw.builder]
      exact hw.apart.builder_usable
  · intro hs
    rw [LoadedModule.definedNames, LoadedModule.classes, LoadedModule.writtenNames,
      List.map_flatMap]
    refine List.flatMap_congr fun p hp => ?_
    have hw := h.wellNamed p hp
    rw [← hw.recordClass_eq, ← hw.builderClass_ascii hs]
    rfl

/-- The classes of a record with one field have distinct names, so they are what they are called. -/
theorem die_class_names :
    FromSources .default (itemsOf "struct Die { face: u8 }") [diePair] ∧
      diePair.RefersToItself ⟨"builder", "build", [diePair]⟩ := by
  have hm : FromSources .default (itemsOf "struct Die { face: u8 }")
      (LoadedModule.mk "builder" "build" [diePair]).pairs :=
    diePair_fromSources
  obtain ⟨_, _, _, hself⟩ := class_names hm
  exact ⟨hm, hself.mpr (by decide +kernel) diePair List.mem_cons_self⟩

end Target.FromSources
end RecordBuilders
