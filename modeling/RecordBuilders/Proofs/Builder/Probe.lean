import RecordBuilders.Proofs.Builder.Storage

/-! How a single call brings to light what is in the way of the methods of a builder. One value is
given to one method after the other; whoever can tell from a session what each field has accumulated
sees by it that no two methods share a name and that nothing is hidden from them. -/
namespace RecordBuilders
open Target

/-- A value that every method of a member makes something new of, and each one something else. -/
def probe : Json := .array [.null]

namespace Member

/-- After these calls the probe would be new to the member. -/
structure Blank (f : Member) (fills : List (String × Json)) : Prop where
  unlike : f.accumulated fills ≠ probe
  empty : ∀ method, (method, Action.append) ∈ f.actions → f.accumulated fills = .array []

variable {f : Member} {method other : String} {action meaning : Action}
  {fills : List (String × Json)}

theorem Blank.accumulated_probe (hb : f.Blank fills) (h : (method, action) ∈ f.actions) :
    f.accumulated (fills ++ [(method, probe)]) =
      if action = .append then .array [probe] else probe := by
  rw [accumulated_snoc h probe]
  cases action with
  | store => rfl
  | append =>
    rw [hb.empty method h]
    rfl
  | replace => rfl

theorem Blank.accumulated_probe_ne (hb : f.Blank fills) (h : (method, action) ∈ f.actions) :
    f.accumulated (fills ++ [(method, probe)]) ≠ f.accumulated fills := by
  rw [hb.accumulated_probe h]
  split
  · rename_i ha
    subst ha
    rw [hb.empty method h]
    simp
  · exact hb.unlike.symm

/-- A member has at most one method that appends, and at most one that does not. -/
theorem method_eq_of_append_iff (h : (method, action) ∈ f.actions)
    (ho : (other, meaning) ∈ f.actions) (hiff : action = .append ↔ meaning = .append) :
    method = other := by
  cases hr : f.role with
  | required =>
    simp only [actions, hr, List.mem_singleton, Prod.mk.injEq] at h ho
    rw [h.1, ho.1]
  | optional inner =>
    simp only [actions, hr, List.mem_singleton, Prod.mk.injEq] at h ho
    rw [h.1, ho.1]
  | repeatable element append =>
    simp only [actions, hr, List.mem_cons, Prod.mk.injEq] at h ho
    have hbulk {n : String} {a : Action}
        (hn : (n, a) ∈ if f.hasBulkSetter = true then [(f.name, Action.replace)] else []) :
        n = f.name ∧ a ≠ .append := by
      split at hn
      · obtain ⟨rfl, rfl⟩ := Prod.mk.inj (List.mem_singleton.mp hn)
        exact ⟨rfl, by simp⟩
      · cases hn
    rcases h with ⟨rfl, rfl⟩ | h
    · rcases ho with ⟨rfl, _⟩ | ho
      · rfl
      · exact absurd (hiff.mp rfl) (hbulk ho).2
    · rcases ho with ⟨rfl, rfl⟩ | ho
      · exact absurd (hiff.mpr rfl) (hbulk h).2
      · rw [(hbulk h).1, (hbulk ho).1]

/-- Two methods of a member never do the same. -/
theorem Blank.method_eq (hb : f.Blank fills) (h : (method, action) ∈ f.actions)
    (ho : (other, meaning) ∈ f.actions)
    (he : f.accumulated (fills ++ [(method, probe)]) = f.accumulated (fills ++ [(other, probe)])) :
    method = other := by
  rw [hb.accumulated_probe h, hb.accumulated_probe ho] at he
  apply method_eq_of_append_iff h ho
  by_cases ha : action = .append
  · by_cases hm : meaning = .append
    · exact iff_of_true ha hm
    · simp [ha, hm, probe] at he
  · by_cases hm : meaning = .append
    · simp [ha, hm, probe] at he
    · exact iff_of_false ha hm

end Member

/-- From the session, and from each one that a single call of the probe leads to, it can be told what
every field of the builder has accumulated. The calls before it are given for each field. -/
structure Session.Shows (m : LoadedModule) (s : Session) (i : Nat) (b : Builder)
    (calls : String → List (String × Json)) (told : Session → HintedMember → Json) : Prop where
  product : s.products[i]? = some (.builder b)
  blank : ∀ f ∈ b.classes.members, f.Blank (calls f.name)
  before : ∀ f ∈ b.classes.members, told s f = f.accumulated (calls f.name)
  after : ∀ f ∈ b.classes.members, ∀ method ∈ f.methods, ∀ g ∈ b.classes.members,
    told (s.use m (.fill i f.name method probe)).1 g =
      g.accumulated (if f.name = g.name then calls g.name ++ [(method, probe)] else calls g.name)

namespace Session.Shows
variable {m : LoadedModule} {c : Config} {s : Session} {i : Nat} {b : Builder}
  {calls : String → List (String × Json)} {told : Session → HintedMember → Json}
  {f g : HintedMember} {method other : String} {action meaning : Action}

theorem mem_methods (h : (method, action) ∈ f.actions) : method ∈ f.methods := by
  rw [← f.map_fst_actions]
  exact List.mem_map_of_mem h

/-- A call that failed could not be told from none. -/
theorem call_ok (h : s.Shows m i b calls told) (hf : f ∈ b.classes.members)
    (ha : (method, action) ∈ f.actions) :
    ∃ answer, b.call m (b.classes.builderName method) probe = .ok answer := by
  cases hc : b.call m (b.classes.builderName method) probe with
  | ok answer => exact ⟨answer, rfl⟩
  | error fault =>
    have hafter := h.after f hf method (mem_methods ha) f hf
    rw [use_fill h.product, hc, if_pos rfl] at hafter
    exact absurd (hafter.symm.trans (h.before f hf)) ((h.blank f hf).accumulated_probe_ne ha)

theorem unasked (h : s.Shows m i b calls told) :
    "__getattribute__" ∉ b.classes.slotNames := by
  intro hs
  obtain ⟨f, hf, _⟩ := List.mem_map.mp hs
  obtain ⟨action, ha⟩ := Member.exists_action f.name_mem_methods
  obtain ⟨answer, hc⟩ := h.call_ok hf ha
  obtain ⟨_, hm, _⟩ := bind_eq_ok_iff.mp hc
  have hslot : b.classes.hasSlot "__getattribute__" = true := by simpa [ClassPair.hasSlot] using hs
  rw [Builder.meaning, if_pos hslot] at hm
  cases hm

/-- Two methods that are called by the same attribute are the same method. -/
theorem setter_inj (h : s.Shows m i b calls told) (hp : m.Provides c b.classes)
    (hf : f ∈ b.classes.members) (hg : g ∈ b.classes.members) (ha : (method, action) ∈ f.actions)
    (hm : (other, meaning) ∈ g.actions)
    (he : b.classes.builderName method = b.classes.builderName other) :
    f = g ∧ method = other := by
  have hsame : (s.use m (.fill i f.name method probe)).1 =
      (s.use m (.fill i g.name other probe)).1 := by
    rw [use_fill h.product, use_fill h.product, he]
  have hleft := h.after f hf method (mem_methods ha) f hf
  have hright := h.after g hg other (mem_methods hm) f hf
  rw [if_pos rfl] at hleft
  rw [← hsame, hleft] at hright
  by_cases hfg : f = g
  · subst hfg
    rw [if_pos rfl] at hright
    exact ⟨rfl, (h.blank f hf).method_eq ha hm hright⟩
  · rw [if_neg fun hn => hfg (hp.name_inj hf hg hn.symm)] at hright
    exact absurd hright ((h.blank f hf).accumulated_probe_ne ha)

/-- The build method does not take the value that a field's method takes. -/
theorem builderName_ne_build (h : s.Shows m i b calls told) (hp : m.Provides c b.classes)
    (hf : f ∈ b.classes.members) (ha : (method, action) ∈ f.actions) :
    b.classes.builderName method ≠ b.classes.builderName b.classes.buildMethod := by
  intro he
  obtain ⟨answer, hc⟩ := h.call_ok hf ha
  have hattribute := ClassPair.attribute?_of_method hp.unfaulted (ClassPair.method?_build)
  rw [he, Builder.call, Builder.meaning_of_method h.unasked hattribute] at hc
  cases hc

theorem definitions_nodup (h : s.Shows m i b calls told) (hp : m.Provides c b.classes) :
    (b.classes.definitions.map Prod.fst).Nodup := by
  have hmethods : (b.classes.setters.map fun s => s.2.1).Nodup := by
    rw [ClassPair.map_setters]
    exact hp.wellNamed.apart.distinct
  have hsetters : (b.classes.setters.map fun s => b.classes.builderName s.2.1).Nodup := by
    refine hmethods.of_map.map_on fun x hx y hy he => ?_
    obtain ⟨hf, ha⟩ := ClassPair.mem_setters.mp hx
    obtain ⟨hg, hm⟩ := ClassPair.mem_setters.mp hy
    exact List.inj_on_of_nodup_map hmethods hx hy (h.setter_inj hp hf hg ha hm he).2
  rw [ClassPair.definitions_eq, List.map_cons, List.nodup_cons]
  constructor
  · intro hi
    obtain ⟨method, hm, hne⟩ := ClassPair.method?_initializer_ne hi
    exact hne (hp.initializer method hm)
  · rw [ClassPair.map_fst_laterDefinitions]
    refine List.nodup_append.mpr ⟨hsetters, List.nodup_singleton _, ?_⟩
    intro name hn build hb he
    obtain ⟨x, hx, rfl⟩ := List.mem_map.mp hn
    obtain ⟨hf, ha⟩ := ClassPair.mem_setters.mp hx
    exact h.builderName_ne_build hp hf ha (he.trans (List.mem_singleton.mp hb))

end Session.Shows

/-- A class that hides a name which the code looks up is a builder class: the names of records are
checked as they are. -/
theorem Target.FromSources.class?_header {c : Config} {items : List Item} {m : LoadedModule}
    (h : FromSources c items m.pairs) {name : String} (hn : name ∈ headerNames) {k : LoadedClass}
    (hk : m.class? name = some k) : ∃ p, k = .builder p := by
  obtain ⟨hmem, hname⟩ := LoadedModule.class?_mem hk
  cases k with
  | builder p => exact ⟨p, rfl⟩
  | record p =>
    have hp := h.wellNamed p (LoadedModule.mem_pairs_of_record hmem)
    have hu := hp.apart.record_usable
    have hrecord : p.record = name := hp.recordClass_eq.symm.trans hname
    rw [isUnusableForClass, hrecord, List.contains_iff_mem.mpr hn, Bool.or_true] at hu
    cases hu

theorem Builder.copied_of_hidden {m : LoadedModule} {p : ClassPair}
    (h : m.class? "list" = some (.builder p)) (value : Json) :
    ∃ fault, copied m value = .error fault := by
  refine ⟨.tooManyArguments p.builderClass initializerName 1, ?_⟩
  unfold copied
  rw [h]
  rfl

theorem Session.Shows.list_eq_none {c : Config} {items : List Item} {m : LoadedModule} {s : Session}
    {i : Nat} {b : Builder} {calls : String → List (String × Json)}
    {told : Session → HintedMember → Json} (h : s.Shows m i b calls told) (hm : m.IsFrom c items)
    (hp : m.Provides c b.classes) (hbulk : ∃ f ∈ b.classes.members, f.hasBulkSetter = true) :
    m.class? "list" = none := by
  obtain ⟨f, hf, hb⟩ := hbulk
  have ha := Member.replace_mem_actions hb
  obtain ⟨answer, hc⟩ := h.call_ok hf ha
  have hattribute := hp.attribute?_setter (h.definitions_nodup hp) hf ha
  rw [Builder.call, Builder.meaning_of_method h.unasked hattribute] at hc
  cases hk : m.class? "list" with
  | none => rfl
  | some k =>
    obtain ⟨p, rfl⟩ := hm.sources.class?_header (by decide) hk
    obtain ⟨fault, hfault⟩ := Builder.copied_of_hidden hk probe
    obtain ⟨_, ⟨⟩, hc⟩ := bind_eq_ok_iff.mp hc
    obtain ⟨after, hafter, _⟩ := bind_eq_ok_iff.mp hc
    obtain ⟨items, hitems, _⟩ := bind_eq_ok_iff.mp hafter
    rw [hfault] at hitems
    cases hitems

end RecordBuilders
