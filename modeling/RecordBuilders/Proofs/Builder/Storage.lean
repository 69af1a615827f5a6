import RecordBuilders.Proofs.Builder.History

/-! What the slots of a builder hold. Main result: they hold what the calls of each field's own methods
have left there, whatever happens in between, exactly if no two members of a builder class share a name
and nothing hides what its methods look up. -/
namespace RecordBuilders
open Target

/-- No two members of a builder class share a name, and no member is asked for the others. -/
structure Target.ClassPair.MembersApart (p : ClassPair) : Prop where
  slots : p.slotNames.Nodup
  methods : (p.definitions.map Prod.fst).Nodup
  unasked : "__getattribute__" ∉ p.slotNames

/-- The members of the class are apart, and where a sequence can be replaced, it is the function of the
language that makes the list. -/
structure Target.ClassPair.Fillable (m : LoadedModule) (p : ClassPair) : Prop where
  apart : p.MembersApart
  list : (∃ f ∈ p.members, f.hasBulkSetter = true) → m.class? "list" = none

theorem diePair_apart : diePair.MembersApart where
  slots := by decide +kernel
  methods := by decide +kernel
  unasked := by decide +kernel

theorem diePair_fillable : diePair.Fillable dieModule where
  apart := diePair_apart
  list hbulk := absurd hbulk (by decide)

/-- The slots hold what the calls leave, which are given for each field. -/
def Builder.Holds (b : Builder) (calls : String → List (String × Json)) : Prop :=
  ∀ f ∈ b.classes.members,
    b.slots.lookup (b.classes.storage f.toMember) = some (f.accumulated (calls f.name))

/-- What a builder keeps for a field depends on nothing but the calls of the field's own methods. A
value that cannot be iterated over is refused as a sequence, and building changes no builder. -/
structure LoadedModule.KeepsFills (m : LoadedModule) : Prop where
  slots {uses : List Use} {s : Session} {i : Nat} {b : Builder} :
    History m uses s → s.products[i]? = some (.builder b) → b.Holds fun field => fills i field uses
  refused {uses : List Use} {s : Session} {i : Nat} {b : Builder} :
    History m uses s → s.products[i]? = some (.builder b) → ∀ f ∈ b.classes.members,
      ∀ method value, (method, Action.replace) ∈ f.actions → value.elements? = none →
        s.use m (.fill i f.name method value) = (s, .failed (.notIterable value.kindName))
  built {uses : List Use} {s : Session} (i : Nat) :
    History m uses s → (s.use m (.build i)).1.products = s.products

namespace Builder
variable {m : LoadedModule} {c : Config} {p : ClassPair} {b : Builder}

theorem meaning_of_method (hu : "__getattribute__" ∉ b.classes.slotNames) {name : String}
    {method : Method} (h : b.classes.attribute? name = some (.method method)) :
    b.meaning name = .ok (.method method) := by
  have hg : b.classes.hasSlot "__getattribute__" = false := by simpa [ClassPair.hasSlot] using hu
  simp [meaning, hg, plainMeaning?, h]

theorem read_slot (hu : "__getattribute__" ∉ b.classes.slotNames) {name : String} {value : Json}
    (hs : name ∈ b.classes.slotNames) (hv : b.slots.lookup name = some value) :
    b.read name = .ok value := by
  have hg : b.classes.hasSlot "__getattribute__" = false := by simpa [ClassPair.hasSlot] using hu
  have hslot : b.classes.attribute? name = some .slot := by
    simp [ClassPair.attribute?, ClassPair.hasSlot, hs]
  have hm : b.meaning name = .ok (.value value) := by
    simp [meaning, hg, plainMeaning?, hslot, hv]
  unfold read
  rw [hm]
  rfl

theorem copied_eq (h : m.class? "list" = none) (value : Json) :
    copied m value = match value.elements? with
      | some items => .ok items
      | none => .error (.notIterable value.kindName) := by
  unfold copied
  rw [h, Option.bind_none]
  cases value.elements? <;> rfl

/-- A setter does what its action says, or fails where the action has no result. -/
theorem act_eq {storage : String} {old : Json} (value : Json) {action : Action}
    (hr : b.read storage = .ok old) (ha : action = .append → ∃ items, old = .array items)
    (hl : action = .replace → m.class? "list" = none) :
    b.act m storage value action = match action.result? old value with
      | some next => .ok (b.write storage next)
      | none => .error (.notIterable value.kindName) := by
  cases action with
  | store => rfl
  | append =>
    obtain ⟨items, rfl⟩ := ha rfl
    simp only [act, hr]
    rfl
  | replace =>
    simp only [act, copied_eq (hl rfl), Action.result?]
    cases value.elements? <;> rfl

end Builder

namespace LoadedModule
variable {m : LoadedModule} {c : Config} {p : ClassPair}

theorem Provides.storage_mem (h : m.Provides c p) {f : HintedMember} (hf : f ∈ p.members) :
    p.storage f.toMember ∈ p.slotNames := by
  rw [← h.wellNamed.storages_eq]
  exact List.mem_map_of_mem hf

/-- Among distinct names, the method of a field is found by its attribute. -/
theorem Provides.attribute?_setter (h : m.Provides c p) (hd : (p.definitions.map Prod.fst).Nodup)
    {f : HintedMember}
    (hf : f ∈ p.members) {method : String} {action : Action} (hm : (method, action) ∈ f.actions) :
    p.attribute? (p.builderName method) =
      some (.method (.setter action (p.storage f.toMember))) := by
  apply ClassPair.attribute?_of_method h.unfaulted
  apply ClassPair.method?_of_nodup hd
  rw [ClassPair.definitions_eq]
  refine List.mem_cons_of_mem _ (ClassPair.mem_laterDefinitions.mpr (Or.inl ?_))
  exact ⟨(f, method, action), ClassPair.mem_setters.mpr ⟨hf, hm⟩, rfl, rfl⟩

/-- Members that are apart are told apart by their storage. -/
theorem Provides.storage_inj (h : m.Provides c p) (hd : p.slotNames.Nodup) {f g : HintedMember}
    (hf : f ∈ p.members) (hg : g ∈ p.members)
    (he : p.storage f.toMember = p.storage g.toMember) : f = g := by
  rw [← h.wellNamed.storages_eq] at hd
  exact List.inj_on_of_nodup_map hd hf hg he

theorem Provides.name_inj (h : m.Provides c p) {f g : HintedMember} (hf : f ∈ p.members)
    (hg : g ∈ p.members) (he : f.name = g.name) : f = g := by
  have hd : (p.members.map fun f => f.name).Nodup := by
    have hd := h.wellNamed.apart.names_nodup
    rwa [List.map_map] at hd
  exact List.inj_on_of_nodup_map hd hf hg he

end LoadedModule

namespace Member
variable {f : Member} {method : String}

theorem exists_of_append (h : (method, Action.append) ∈ f.actions) (fills : List (String × Json)) :
    ∃ items, f.accumulated fills = .array items := by
  cases hr : f.role with
  | required => simp [actions, hr] at h
  | optional inner => simp [actions, hr] at h
  | repeatable element append => exact ⟨f.sequence fills, by simp [accumulated, hr]⟩

theorem hasBulkSetter_of_replace (h : (method, Action.replace) ∈ f.actions) :
    f.hasBulkSetter = true := by
  cases hr : f.role with
  | required => simp [actions, hr] at h
  | optional inner => simp [actions, hr] at h
  | repeatable element append =>
    simp only [actions, hr, List.mem_cons, Prod.mk.injEq, reduceCtorEq, and_false, false_or] at h
    split at h
    · assumption
    · cases h

theorem replace_mem_actions (h : f.hasBulkSetter = true) :
    (f.name, Action.replace) ∈ f.actions := by
  cases hr : f.role with
  | required => simp [hasBulkSetter, hr] at h
  | optional inner => simp [hasBulkSetter, hr] at h
  | repeatable element append => simp [actions, hr, h]

theorem exists_action (h : method ∈ f.methods) : ∃ action, (method, action) ∈ f.actions := by
  rw [← f.map_fst_actions] at h
  obtain ⟨⟨_, action⟩, ha, rfl⟩ := List.mem_map.mp h
  exact ⟨action, ha⟩

end Member

section Filling
variable {m : LoadedModule} {c : Config} {b : Builder} {calls : String → List (String × Json)}
  {f : HintedMember} {method : String} {action : Action}

/-- A call of a field's method works on what the earlier calls have left for the field. -/
theorem Builder.call_fill (value : Json) (h : m.Provides c b.classes) (hp : b.classes.Fillable m)
    (hb : b.Holds calls) (hf : f ∈ b.classes.members) (hm : (method, action) ∈ f.actions) :
    b.call m (b.classes.builderName method) value =
      match action.result? (f.accumulated (calls f.name)) value with
      | some next => .ok ⟨true, b.write (b.classes.storage f.toMember) next⟩
      | none => .error (.notIterable value.kindName) := by
  have hmeaning := meaning_of_method hp.apart.unasked (h.attribute?_setter hp.apart.methods hf hm)
  have hread := read_slot hp.apart.unasked (h.storage_mem hf) (hb f hf)
  have happend : action = .append → ∃ items, f.accumulated (calls f.name) = .array items := by
    rintro rfl
    exact Member.exists_of_append hm _
  have hlist : action = .replace → m.class? "list" = none := by
    rintro rfl
    exact hp.list ⟨f, hf, Member.hasBulkSetter_of_replace hm⟩
  have hact := act_eq value hread happend hlist
  unfold call
  rw [hmeaning]
  simp only [bind, Except.bind, hact]
  cases action.result? (f.accumulated (calls f.name)) value <;> rfl

/-- Only the field whose method was called holds something else. -/
theorem Builder.Holds.write (h : m.Provides c b.classes) (hd : b.classes.slotNames.Nodup)
    (hb : b.Holds calls) (hf : f ∈ b.classes.members) (more : String → List (String × Json))
    (hmore : ∀ g ∈ b.classes.members, g ≠ f → more g.name = calls g.name) :
    (b.write (b.classes.storage f.toMember) (f.accumulated (more f.name))).Holds more := by
  intro g hg
  rw [write_classes] at hg ⊢
  rw [lookup_write]
  split
  · rename_i he
    rw [h.storage_inj hd hg hf he]
  · rename_i he
    have hne : g ≠ f := by
      rintro rfl
      exact he rfl
    rw [hb g hg, hmore g hg hne]

end Filling

section Histories
variable {m : LoadedModule} {c : Config} {items : List Item} {uses : List Use} {s : Session}
  {i : Nat} {b : Builder}

theorem Member.accumulated_snoc_of_failure {f : Member} {method : String} {action : Action}
    {value : Json} {fills : List (String × Json)} (hm : (method, action) ∈ f.actions)
    (h : action.result? (f.accumulated fills) value = none) :
    f.accumulated (fills ++ [(method, value)]) = f.accumulated fills := by
  rw [accumulated_snoc hm, h, Option.getD_none]

/-- What was called on a builder is a method of one of its fields. -/
theorem Session.Offers.exists_action {index : Nat} {field method : String} {value : Json}
    (ho : s.Offers (.fill index field method value))
    (hb : s.products[index]? = some (.builder b)) :
    ∃ f ∈ b.classes.members, f.name = field ∧ ∃ action, (method, action) ∈ f.actions := by
  obtain ⟨other, hother, f, hf, hname, hmethod⟩ := ho
  rw [hb] at hother
  cases hother
  exact ⟨f, hf, hname, Member.exists_action hmethod⟩

namespace Builder
variable (hp : m.Provides c b.classes) (hok : b.classes.Fillable m)
  (hholds : b.Holds fun field => fills i field uses) (hb : s.products[i]? = some (.builder b))
include hp hok hholds hb

/-- A use that leaves a builder alone adds nothing to what its fields hold: a call on it has
failed. -/
theorem holds_of_unchanged {u : Use} (ho : s.Offers u)
    (hfail : ∀ field method value, u = .fill i field method value →
      ∃ fault, b.call m (b.classes.builderName method) value = .error fault) :
    b.Holds fun field => fills i field (uses ++ [u]) := by
  intro g hg
  rw [hholds g hg]
  dsimp only
  cases u with
  | new record => rw [fills_snoc_new]
  | build index => rw [fills_snoc_build]
  | fill index field method value =>
    rw [fills_snoc_fill]
    split
    · rename_i he
      obtain ⟨rfl, rfl⟩ := he
      obtain ⟨f, hf, hname, action, haction⟩ := ho.exists_action hb
      rw [hp.name_inj hf hg hname] at haction
      obtain ⟨fault, hfault⟩ := hfail g.name method value rfl
      rw [call_fill _ hp hok hholds hg haction] at hfault
      split at hfault
      · cases hfault
      · rename_i hnone
        rw [Member.accumulated_snoc_of_failure haction hnone]
    · rfl

/-- A call that succeeds is added to what its field holds, and to nothing else. -/
theorem holds_of_call {field method : String} {value : Json} {answer : CallAnswer}
    (ho : s.Offers (.fill i field method value))
    (ha : b.call m (b.classes.builderName method) value = .ok answer) :
    answer.builder.Holds fun name => fills i name (uses ++ [.fill i field method value]) := by
  obtain ⟨f, hf, hname, action, haction⟩ := ho.exists_action hb
  rw [call_fill _ hp hok hholds hf haction] at ha
  split at ha
  · rename_i next hnext
    cases ha
    have hmore :
        f.accumulated (fills i f.name (uses ++ [.fill i field method value])) = next := by
      rw [fills_snoc_fill, if_pos ⟨rfl, hname.symm⟩, Member.accumulated_snoc haction, hnext,
        Option.getD_some]
    have hothers : ∀ g ∈ b.classes.members, g ≠ f →
        fills i g.name (uses ++ [.fill i field method value]) = fills i g.name uses := by
      intro g hg hne
      rw [fills_snoc_fill, if_neg]
      rintro ⟨_, he⟩
      exact hne (hp.name_inj hg hf (he.symm.trans hname.symm))
    have hwritten := hholds.write hp hok.apart.slots hf
      (fun name => fills i name (uses ++ [.fill i field method value])) hothers
    rwa [hmore] at hwritten
  · cases ha

end Builder

/-- Nothing was called yet on a builder that has just been created. -/
theorem Builder.holds_of_create {record : String} (hm : m.IsFrom c items)
    (hok : b.classes.Fillable m) (h : History m uses s) (hi : i = s.products.length)
    (hc : m.create record = .ok (.builder b)) :
    b.Holds fun field => fills i field (uses ++ [.new record]) := by
  obtain ⟨hp, hinitial⟩ := hm.new_of_create hc
  intro g hg
  have hnodup : (b.classes.members.map fun f => b.classes.storage f.toMember).Nodup := by
    rw [hp.wellNamed.storages_eq]
    exact hok.apart.slots
  dsimp only
  rw [(slots_of_initial hinitial).2 hnodup g hg, fills_snoc_new,
    h.fills_eq_nil (Nat.le_of_eq hi.symm), Member.accumulated_nil]

/-- By induction on the history: the last use has left the builder alone, has called one of its
methods, or has created it. -/
theorem Builder.holds_of_history (hm : m.IsFrom c items) (hok : ∀ p, m.Creates p → p.Fillable m)
    (h : History m uses s) (hb : s.products[i]? = some (.builder b)) :
    b.Holds fun field => fills i field uses := by
  induction h generalizing b with
  | start => simp at hb
  | @use uses s u h ho ih =>
    rcases Session.use_cases hb with ⟨hbefore, hfail⟩ |
        ⟨before, field, method, value, answer, rfl, hbefore, ha, rfl⟩ | ⟨hi, record, rfl, hc⟩
    · have hcreates := h.creates hbefore
      exact holds_of_unchanged (hm.provides hcreates) (hok _ hcreates) (ih hbefore) hbefore ho hfail
    · have hcreates := h.creates hbefore
      exact holds_of_call (hm.provides hcreates) (hok _ hcreates) (ih hbefore) hbefore ho ha
    · exact holds_of_create hm (hok _ ⟨record, b, hc, rfl⟩) h hi hc

theorem LoadedModule.keepsFills_of_fillable (hm : m.IsFrom c items)
    (hok : ∀ p, m.Creates p → p.Fillable m) : m.KeepsFills where
  slots h hb := Builder.holds_of_history hm hok h hb
  refused := by
    intro uses s i b h hb f hf method value haction hvalue
    have hcall := Builder.call_fill value (hm.provides (h.creates hb))
      (hok _ (h.creates hb)) (Builder.holds_of_history hm hok h hb) hf haction
    simp only [Action.result?, hvalue, Option.map_none] at hcall
    rw [Session.use_fill hb, hcall]
  built i _ := Session.use_build_products

end Histories

end RecordBuilders
