import Mathlib.Data.List.Nodup

/-! Looking up names in lists of pairs. Among distinct names, order does not matter. -/
namespace RecordBuilders
variable {α β : Type} [BEq α] [LawfulBEq α] {xs ys : List (α × β)} {k : α} {v : β}

theorem lookup_mem (h : xs.lookup k = some v) : (k, v) ∈ xs := by
  obtain ⟨before, behind, rfl, _⟩ := List.lookup_eq_some_iff.mp h
  simp

theorem lookup_isSome_of_mem (h : (k, v) ∈ xs) : (xs.lookup k).isSome := by
  rw [List.lookup_isSome_iff]
  exact ⟨(k, v), h, beq_self_eq_true k⟩

theorem lookup_eq_none_of_not_mem (h : k ∉ xs.map Prod.fst) : xs.lookup k = none := by
  rw [List.lookup_eq_none_iff]
  intro p hp
  exact bne_iff_ne.mpr fun he => h (he ▸ List.mem_map_of_mem hp)

/-- Among distinct names, each one is found with its own value. -/
theorem lookup_of_nodup (h : (xs.map Prod.fst).Nodup) (hm : (k, v) ∈ xs) :
    xs.lookup k = some v := by
  obtain ⟨found, hf⟩ := Option.isSome_iff_exists.mp (lookup_isSome_of_mem hm)
  have he : (k, found) = (k, v) := List.inj_on_of_nodup_map h (lookup_mem hf) hm rfl
  rw [hf, (Prod.mk.inj he).2]

theorem lookup_eq_some_iff_mem (h : (xs.map Prod.fst).Nodup) :
    xs.lookup k = some v ↔ (k, v) ∈ xs :=
  ⟨lookup_mem, lookup_of_nodup h⟩

theorem lookup_of_perm (h : (xs.map Prod.fst).Nodup) (hp : xs.Perm ys) :
    ys.lookup k = xs.lookup k := by
  have hys : (ys.map Prod.fst).Nodup := (hp.map Prod.fst).nodup_iff.mp h
  apply Option.ext
  intro v
  rw [lookup_eq_some_iff_mem h, lookup_eq_some_iff_mem hys, hp.mem_iff]

end RecordBuilders
