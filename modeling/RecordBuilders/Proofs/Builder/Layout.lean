import RecordBuilders.Proofs.Lookup
import RecordBuilders.Proofs.Target.ClassNames

/-! How the names in a builder class come apart once the class exists. Loading refuses a slot that a
method would hide; that no method hides another, and no slot another, it does not check. -/
namespace RecordBuilders
open Target Text

namespace Target.ClassPair
variable {p : ClassPair} {name : String} {method : Method}

/-- The methods of all members, each with its member and its meaning. -/
def setters (p : ClassPair) : List (HintedMember × String × Action) :=
  p.members.flatMap fun f => f.actions.map fun action => (f, action)

theorem mem_setters {f : HintedMember} {action : String × Action} :
    (f, action) ∈ p.setters ↔ f ∈ p.members ∧ action ∈ f.actions := by
  simp only [setters, List.mem_flatMap, List.mem_map, Prod.mk.injEq]
  constructor
  · rintro ⟨g, hg, a, ha, rfl, rfl⟩
    exact ⟨hg, ha⟩
  · rintro ⟨hf, ha⟩
    exact ⟨f, hf, action, ha, rfl, rfl⟩

theorem map_setters : p.setters.map (fun s => s.2.1) =
    (p.members.map HintedMember.toMember).flatMap Member.methods := by
  rw [setters, List.map_flatMap, List.flatMap_map]
  refine List.flatMap_congr fun f _ => ?_
  rw [List.map_map, ← f.map_fst_actions]
  rfl

/-- What the class body defines after the initializer. -/
def laterDefinitions (p : ClassPair) : List (String × Method) :=
  p.setters.map (fun s => (p.builderName s.2.1, .setter s.2.2 (p.storage s.1.toMember))) ++
    [(p.builderName p.buildMethod, .build)]

theorem definitions_eq :
    p.definitions = (initializerName, .initializer) :: p.laterDefinitions := by
  rw [definitions, laterDefinitions, setters, List.map_flatMap, List.cons_append]
  simp only [List.map_map, Function.comp_def]

theorem map_fst_laterDefinitions : p.laterDefinitions.map Prod.fst =
    p.setters.map (fun s => p.builderName s.2.1) ++ [p.builderName p.buildMethod] := by
  simp only [laterDefinitions, List.map_append, List.map_map, Function.comp_def, List.map_cons,
    List.map_nil]

theorem mem_laterDefinitions : (name, method) ∈ p.laterDefinitions ↔
    (∃ s ∈ p.setters,
        p.builderName s.2.1 = name ∧ .setter s.2.2 (p.storage s.1.toMember) = method) ∨
      (p.builderName p.buildMethod = name ∧ method = .build) := by
  simp [laterDefinitions, eq_comm]

theorem method?_mem (h : p.method? name = some method) : (name, method) ∈ p.definitions :=
  List.mem_reverse.mp (lookup_mem h)

theorem method?_of_nodup (h : (p.definitions.map Prod.fst).Nodup)
    (hm : (name, method) ∈ p.definitions) : p.method? name = some method := by
  apply lookup_of_nodup
  · rw [List.map_reverse]
    exact List.nodup_reverse.mpr h
  · exact List.mem_reverse.mpr hm

/-- The build method is defined last, so nothing hides it. -/
theorem method?_build : p.method? (p.builderName p.buildMethod) = some .build := by
  rw [method?, definitions_eq, laterDefinitions, List.reverse_cons, List.reverse_append,
    List.reverse_singleton, List.append_assoc, List.singleton_append, List.lookup_cons_self]

theorem method?_eq_build (h : p.method? name = some .build) :
    p.builderName p.buildMethod = name := by
  have hm := method?_mem h
  rw [definitions_eq] at hm
  rcases List.mem_cons.mp hm with he | hm
  · cases he
  · rcases mem_laterDefinitions.mp hm with ⟨_, _, _, he⟩ | ⟨hn, _⟩
    · cases he
    · exact hn

/-- A later definition takes the place of the initializer. -/
theorem method?_initializer_ne (h : initializerName ∈ p.laterDefinitions.map Prod.fst) :
    ∃ method, p.method? initializerName = some method ∧ method ≠ .initializer := by
  obtain ⟨⟨_, defined⟩, hd, rfl⟩ := List.mem_map.mp h
  obtain ⟨method, hm⟩ := Option.isSome_iff_exists.mp
    (lookup_isSome_of_mem (List.mem_reverse.mpr hd))
  refine ⟨method, ?_, ?_⟩
  · rw [method?, definitions_eq, List.reverse_cons, List.lookup_append, hm, Option.some_or]
  · rintro rfl
    rcases mem_laterDefinitions.mp (List.mem_reverse.mp (lookup_mem hm)) with ⟨_, _, _, he⟩ | ⟨_, he⟩
    · cases he
    · cases he

section Slots

/-- A slot that loading lets pass is no method. -/
theorem method?_of_slot (h : p.builderFault? = none) (hs : name ∈ p.slotNames) :
    p.method? name = none := by
  unfold builderFault? at h
  split at h
  · cases h
  split at h
  · cases h
  cases hc : p.slotConflict? with
  | some found =>
    rw [hc] at h
    cases h
  | none =>
    simp only [hc, Option.map_none] at h
    have hfree := List.find?_eq_none.mp hc name hs
    by_cases ht : name ∈ transientNames
    · -- A transient name is no name on the class, but methods of these names are refused.
      split at h
      · cases h
      · rename_i hq
        split at h
        · cases h
        · rename_i hl
          rcases List.mem_cons.mp ht with rfl | ht
          · exact Option.not_isSome_iff_eq_none.mp hq
          · rw [List.mem_singleton.mp ht]
            exact Option.not_isSome_iff_eq_none.mp hl
    · have hb : name ∉ p.bodyNames := by
        intro hb
        exact hfree (by simp [ht, hb])
      refine Option.not_isSome_iff_eq_none.mp fun hm => hb ?_
      obtain ⟨method, hm⟩ := Option.isSome_iff_exists.mp hm
      exact List.mem_append_right _ (List.mem_map_of_mem (method?_mem hm))

theorem hasSlot_eq_false (h : p.builderFault? = none) (hm : p.method? name = some method) :
    p.hasSlot name = false := by
  refine Bool.eq_false_iff.mpr fun hs => ?_
  rw [method?_of_slot h (List.contains_iff_mem.mp hs)] at hm
  cases hm

theorem attribute?_of_method (h : p.builderFault? = none) (hm : p.method? name = some method) :
    p.attribute? name = some (.method method) := by
  simp [attribute?, hasSlot_eq_false h hm, hm]

theorem attribute?_eq_method (h : p.attribute? name = some (.method method)) :
    p.method? name = some method := by
  unfold attribute? at h
  split at h
  · cases h
  · cases hm : p.method? name with
    | some found =>
      simp only [hm] at h
      cases h
      rfl
    | none =>
      cases hs : p.sharedKind? name <;> cases hi : inheritedOperations.lookup name <;>
        simp [hm, hs, hi] at h

end Slots
end Target.ClassPair
end RecordBuilders
