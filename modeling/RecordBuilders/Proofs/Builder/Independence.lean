import RecordBuilders.Proofs.Builder.Probe

/-! When the fields of a builder are independent of each other. Main result: what the slots hold is left
there by the calls of each field's own methods exactly if no two members of a class share a name and
nothing hides what the methods look up. -/
namespace RecordBuilders
open Target

section Converse
variable {m : LoadedModule} {c : Config} {items : List Item} {b : Builder} {name : String}

theorem Member.blank_nil (f : Member) : f.Blank [] := by
  constructor
  · rw [accumulated_nil]
    cases hr : f.role with
    | required => simp [initialValue, hr, probe]
    | optional inner => simp [initialValue, hr, probe]
    | repeatable element append => simp [initialValue, hr, probe]
  · intro method h
    cases hr : f.role with
    | required => simp [actions, hr] at h
    | optional inner => simp [actions, hr] at h
    | repeatable element append => simp [accumulated, sequence, hr]

/-- What a builder of a session holds for a field. -/
def Session.told (i : Nat) (s : Session) (f : HintedMember) : Json :=
  match s.products[i]? with
  | some (.builder b) => (b.slots.lookup (b.classes.storage f.toMember)).getD .null
  | _ => .null

theorem Session.told_eq {i : Nat} {s : Session} {calls : String → List (String × Json)}
    {f : HintedMember} (hb : s.products[i]? = some (.builder b)) (hh : b.Holds calls)
    (hf : f ∈ b.classes.members) : s.told i f = f.accumulated (calls f.name) := by
  simp [told, hb, hh f hf]

/-- Members with the same storage cannot be told apart. -/
theorem Session.told_congr {i : Nat} {s : Session} {f g : HintedMember}
    (hb : s.products[i]? = some (.builder b))
    (he : b.classes.storage f.toMember = b.classes.storage g.toMember) :
    s.told i f = s.told i g := by
  simp [told, hb, he]

theorem History.of_create (hc : m.create name = .ok (.builder b)) :
    History m [.new name] (({} : Session).use m (.new name)).1 ∧
      (({} : Session).use m (.new name)).1.products[0]? = some (.builder b) := by
  refine ⟨History.use (u := .new name) .start trivial, ?_⟩
  rw [Session.use_new, hc]
  rfl

namespace LoadedModule.KeepsFills

/-- The slots of a new builder tell what its fields have accumulated. -/
theorem shows (hk : m.KeepsFills) (hc : m.create name = .ok (.builder b)) :
    (({} : Session).use m (.new name)).1.Shows m 0 b (fun _ => []) (Session.told 0) := by
  obtain ⟨hh, hb⟩ := History.of_create hc
  refine ⟨hb, fun f _ => f.blank_nil, fun f hf => Session.told_eq hb (hk.slots hh hb) hf, ?_⟩
  intro f hf method hmethod g hg
  have hh := hh.use (u := .fill 0 f.name method probe) ⟨b, hb, f, hf, rfl, hmethod⟩
  obtain ⟨after, ha, hclasses⟩ := Session.use_keeps (m := m) (u := .fill 0 f.name method probe) hb
  rw [Session.told_eq ha (hk.slots hh ha) (hclasses ▸ hg), fills_snoc_fill]
  simp only [true_and]
  rfl

/-- If two members shared their storage, what is set for the one would be there for the other. -/
theorem slotNames_nodup (hk : m.KeepsFills) (hm : m.IsFrom c items)
    (hc : m.create name = .ok (.builder b)) : b.classes.slotNames.Nodup := by
  have hp := (hm.new_of_create hc).1
  have hs := hk.shows hc
  have hmembers : b.classes.members.Nodup := by
    have hd := hp.wellNamed.apart.names_nodup
    rw [List.map_map] at hd
    exact hd.of_map
  rw [← hp.wellNamed.storages_eq]
  refine hmembers.map_on fun f hf g hg he => ?_
  by_contra hne
  obtain ⟨action, ha⟩ := Member.exists_action f.name_mem_methods
  have hname : f.name ≠ g.name := fun hn => hne (hp.name_inj hf hg hn)
  obtain ⟨after, hafter, hclasses⟩ :=
    Session.use_keeps (m := m) (u := .fill 0 f.name f.name probe) hs.product
  have hset := hs.after f hf f.name f.name_mem_methods f hf
  have hother := hs.after f hf f.name f.name_mem_methods g hg
  rw [if_pos rfl] at hset
  rw [if_neg hname, ← hs.before g hg, ← Session.told_congr hs.product he, hs.before f hf,
    ← Session.told_congr hafter (hclasses ▸ he), hset] at hother
  exact (hs.blank f hf).accumulated_probe_ne ha hother

theorem fillable (hk : m.KeepsFills) (hm : m.IsFrom c items)
    (hc : m.create name = .ok (.builder b)) : b.classes.Fillable m := by
  have hp := (hm.new_of_create hc).1
  have hs := hk.shows hc
  exact ⟨⟨hk.slotNames_nodup hm hc, hs.definitions_nodup hp, hs.unasked⟩, hs.list_eq_none hm hp⟩

end LoadedModule.KeepsFills
end Converse

end RecordBuilders
