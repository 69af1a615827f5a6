import Mathlib.Data.List.Induction
import RecordBuilders.Proofs.Builder.Independence

/-! What the build method gives. The first required field that holds null is reported, in the order of
the declaration; if there is none, the record has for each field what its calls have accumulated. -/
namespace RecordBuilders
open Target

def Json.isNull : Json → Bool
  | .null => true
  | _ => false

def Member.isRepeatable (f : Member) : Bool :=
  match f.role with
  | .repeatable _ _ => true
  | _ => false

/-- The answer to building after these calls, which are given for each field. -/
def Target.ClassPair.answer (p : ClassPair) (calls : String → List (String × Json)) : Reply :=
  match p.members.find? fun f => f.isRequired && (f.accumulated (calls f.name)).isNull with
  | some f => .missing ⟨f.name⟩
  | none => .record ⟨p.record, p.members.map fun f => (f.name, f.accumulated (calls f.name))⟩

/-- What is built depends on nothing but the calls of each field's own methods. Building once more
gives the same, and no record changes once it has been given out. -/
structure LoadedModule.BuildsFills (m : LoadedModule) : Prop where
  answer {uses : List Use} {s : Session} {i : Nat} {b : Builder} :
    History m uses s → s.products[i]? = some (.builder b) →
      (s.use m (.build i)).2 = b.classes.answer fun field => fills i field uses
  again {uses : List Use} {s : Session} {i : Nat} {b : Builder} :
    History m uses s → s.products[i]? = some (.builder b) →
      ((s.use m (.build i)).1.use m (.build i)).2 = (s.use m (.build i)).2
  kept {uses more : List Use} {s t : Session} :
    History m uses s → History m (uses ++ more) t → s.records <+: t.records

/-- The members of the class are apart, the build method goes by the name that it was written with, and
the names that it looks up are not hidden. -/
structure Target.ClassPair.Buildable (m : LoadedModule) (p : ClassPair) : Prop where
  apart : p.MembersApart
  build : p.builderName p.buildMethod = p.buildMethod
  unhidden : p.record ≠ receiverName
  record : m.class? p.record = some (.record p)
  list : (∃ f ∈ p.members, f.isRepeatable = true) → m.class? "list" = none
  error : (∃ f ∈ p.members, f.isRequired = true) → m.class? "_MissingFieldError" = none

theorem diePair_buildable : diePair.Buildable dieModule where
  apart := diePair_apart
  build := by decide +kernel
  unhidden := by decide
  record := by
    have hclasses : dieModule.classes.reverse = [.builder diePair, .record diePair] := rfl
    rw [LoadedModule.class?_eq_find?, hclasses, List.find?_cons_of_neg (by decide +kernel),
      List.find?_cons_of_pos (by decide +kernel)]
  list hrepeatable := absurd hrepeatable (by decide)
  error _ := Option.isNone_iff_eq_none.mp (by decide +kernel)

theorem Member.isRepeatable_of_hasBulkSetter {f : Member} (h : f.hasBulkSetter = true) :
    f.isRepeatable = true := by
  cases hr : f.role with
  | required => simp [hasBulkSetter, hr] at h
  | optional inner => simp [hasBulkSetter, hr] at h
  | repeatable element method => simp [isRepeatable, hr]

theorem Target.ClassPair.Buildable.fillable {m : LoadedModule} {p : ClassPair} (h : p.Buildable m) :
    p.Fillable m :=
  ⟨h.apart, fun ⟨f, hf, hb⟩ => h.list ⟨f, hf, Member.isRepeatable_of_hasBulkSetter hb⟩⟩

/-- Reading back every key of a list with distinct keys gives the list. -/
theorem map_lookup_of_nodup {xs : List (String × Json)} (h : (xs.map Prod.fst).Nodup) :
    (xs.map Prod.fst).map (fun key => (key, (xs.lookup key).getD .null)) = xs := by
  rw [List.map_map]
  refine (List.map_congr_left fun x hx => ?_).trans (List.map_id xs)
  rw [Function.comp_apply, lookup_of_nodup h hx, Option.getD_some]
  rfl

section Construction
variable {m : LoadedModule} {c : Config} {p : ClassPair} {b : Builder}

theorem Target.ClassPair.WellNamed.fieldNames_eq (h : p.WellNamed c) :
    p.fieldNames = p.members.map fun f => f.name :=
  List.map_congr_left fun _ hf => h.recordName_name hf

theorem Target.ClassPair.WellNamed.argumentNames_eq (h : p.WellNamed c) :
    p.argumentNames = p.members.map fun f => f.name :=
  List.map_congr_left fun f hf => (h.names_isWord f hf).canonical_eq

theorem Target.ClassPair.WellNamed.fields_nodup (h : p.WellNamed c) :
    (p.members.map fun f => f.name).Nodup := by
  have hd := h.apart.names_nodup
  rwa [List.map_map] at hd

/-- A record takes exactly its own fields. -/
theorem Builder.construct_of_keys {arguments : List (String × Json)}
    (hk : arguments.map Prod.fst = p.fieldNames) (hd : p.fieldNames.Nodup) :
    construct (.record p) arguments = .ok ⟨p.recordClass, arguments⟩ := by
  have hknown : arguments.find? (fun a => !p.fieldNames.contains a.1) = none := by
    rw [List.find?_eq_none]
    intro a hm
    have hn : a.1 ∈ p.fieldNames := hk ▸ List.mem_map_of_mem hm
    simp [hn]
  have hgiven : p.fieldNames.filter (fun field => (arguments.lookup field).isNone) = [] := by
    rw [List.filter_eq_nil_iff]
    intro field hf
    rw [← hk] at hf
    obtain ⟨⟨_, value⟩, hm, rfl⟩ := List.mem_map.mp hf
    simp [lookup_of_nodup (hk ▸ hd) hm]
  simp only [construct, hknown, hgiven]
  rw [← hk, map_lookup_of_nodup (hk ▸ hd)]

theorem Builder.construct_eq (h : p.WellNamed c) (values : List Json)
    (hl : values.length = p.members.length) :
    construct (.record p) (p.argumentNames.zip values) =
      .ok ⟨p.record, (p.members.map fun f => f.name).zip values⟩ := by
  have hkeys : (p.argumentNames.zip values).map Prod.fst = p.fieldNames := by
    rw [h.argumentNames_eq, h.fieldNames_eq]
    exact List.map_fst_zip (Nat.le_of_eq (by rw [List.length_map, hl]))
  have hnodup : p.fieldNames.Nodup := by
    rw [h.fieldNames_eq]
    exact h.fields_nodup
  rw [construct_of_keys hkeys hnodup, h.recordClass_eq, h.argumentNames_eq]

end Construction

section Building
variable {m : LoadedModule} {c : Config} {b : Builder} {calls : String → List (String × Json)}

theorem Builder.missingFault_eq (h : m.class? "_MissingFieldError" = none) (field : String) :
    missingFault m field = .missing ⟨field⟩ := by
  rw [missingFault, h, Option.bind_none]

theorem Builder.checkMember_eq {f : HintedMember} {value : Json}
    (hread : b.read (b.classes.storage f.toMember) = .ok value)
    (herror : f.isRequired = true → m.class? "_MissingFieldError" = none) :
    b.checkMember m f.toMember =
      if f.isRequired && value.isNull then .error (.missing ⟨f.name⟩) else .ok () := by
  unfold checkMember
  rw [hread]
  by_cases hr : f.isRequired = true
  · rw [missingFault_eq (herror hr), hr]
    cases value <;> rfl
  · simp [hr]
    rfl

/-- The members are checked in the order of the declaration, up to the first that fails. -/
theorem Builder.forM_checkMember {members : List HintedMember}
    (hread : ∀ f ∈ members,
      b.read (b.classes.storage f.toMember) = .ok (f.accumulated (calls f.name)))
    (herror : (∃ f ∈ members, f.isRequired = true) → m.class? "_MissingFieldError" = none) :
    (members.forM fun f => b.checkMember m f.toMember) =
      match members.find? fun f => f.isRequired && (f.accumulated (calls f.name)).isNull with
      | some f => .error (.missing ⟨f.name⟩)
      | none => .ok () := by
  induction members with
  | nil => rfl
  | cons f members ih =>
    have ih := ih (fun g hg => hread g (List.mem_cons_of_mem _ hg))
      fun ⟨g, hg, hr⟩ => herror ⟨g, List.mem_cons_of_mem _ hg, hr⟩
    have hf := checkMember_eq (m := m) (hread f List.mem_cons_self)
      fun hr => herror ⟨f, List.mem_cons_self, hr⟩
    change (b.checkMember m f.toMember >>= fun _ =>
      members.forM fun f => b.checkMember m f.toMember) = _
    rw [hf, ih, List.find?_cons]
    cases f.isRequired && (f.accumulated (calls f.name)).isNull <;> rfl

theorem Builder.argument_eq {f : HintedMember}
    (hread : b.read (b.classes.storage f.toMember) = .ok (f.accumulated (calls f.name)))
    (hlist : f.isRepeatable = true → m.class? "list" = none) :
    b.argument m f.toMember = .ok (f.accumulated (calls f.name)) := by
  unfold argument
  rw [hread]
  cases hr : f.role with
  | required => rfl
  | optional inner => rfl
  | repeatable element method =>
    have ha : f.accumulated (calls f.name) = .array (f.sequence (calls f.name)) := by
      simp [Member.accumulated, hr]
    simp only [bind, Except.bind, ha, copied_eq (hlist (by simp [Member.isRepeatable, hr])),
      Json.elements?]
    rfl

/-- In a class whose members are apart, what the slots hold is what they are read as. -/
theorem Builder.Holds.read (hb : b.Holds calls) (h : m.Provides c b.classes)
    (hu : "__getattribute__" ∉ b.classes.slotNames) :
    ∀ f ∈ b.classes.members,
      b.read (b.classes.storage f.toMember) = .ok (f.accumulated (calls f.name)) :=
  fun f hf => read_slot hu (h.storage_mem hf) (hb f hf)

theorem Builder.assemble_eq (h : m.Provides c b.classes) (hp : b.classes.Buildable m)
    (hb : b.Holds calls) :
    b.assemble m = .ok ⟨b.classes.record,
      b.classes.members.map fun f => (f.name, f.accumulated (calls f.name))⟩ := by
  have hw := h.wellNamed
  have hread := hb.read h hp.apart.unasked
  have harguments : b.argumentValues m =
      .ok (b.classes.members.map fun f => f.accumulated (calls f.name)) :=
    mapM_eq_map fun f hf => argument_eq (hread f hf) fun hr => hp.list ⟨f, hf, hr⟩
  have hname : b.classes.builderName b.classes.record = b.classes.record :=
    hw.builderName_record.trans hw.recordClass_eq
  unfold assemble
  dsimp only
  rw [hname, if_neg hp.unhidden, hp.record, harguments]
  have hrecord := construct_eq hw
    (b.classes.members.map fun f => f.accumulated (calls f.name)) (by rw [List.length_map])
  rw [List.zip_map'] at hrecord
  exact hrecord

/-- The build method goes by its configured name. -/
theorem Builder.finish_eq (h : m.Provides c b.classes) (hp : b.classes.Buildable m) :
    b.finish m = b.build m := by
  have hmethod : b.classes.method? b.classes.buildMethod = some .build := by
    rw [← hp.build]
    exact ClassPair.method?_build
  have hmeaning := meaning_of_method hp.apart.unasked
    (ClassPair.attribute?_of_method h.unfaulted hmethod)
  unfold finish
  rw [hmeaning]
  rfl

theorem Builder.finish_holds (h : m.Provides c b.classes) (hp : b.classes.Buildable m)
    (hb : b.Holds calls) :
    b.finish m =
      match b.classes.members.find? fun f =>
        f.isRequired && (f.accumulated (calls f.name)).isNull with
      | some f => .error (.missing ⟨f.name⟩)
      | none => .ok ⟨b.classes.record,
          b.classes.members.map fun f => (f.name, f.accumulated (calls f.name))⟩ := by
  have hcheck := forM_checkMember (hb.read h hp.apart.unasked) hp.error
  rw [finish_eq h hp]
  unfold build
  rw [hcheck, assemble_eq h hp hb]
  split <;> rfl

end Building
section Records
variable {m : LoadedModule} {c : Config} {items : List Item} {uses more : List Use}
  {s t : Session} {i : Nat} {b : Builder}

/-- Asking a builder for its record. -/
theorem Session.use_build (hb : s.products[i]? = some (.builder b)) :
    s.use m (.build i) =
      match b.finish m with
      | .error fault => (s, fault.reply)
      | .ok record =>
        (⟨s.products, s.records ++ [record], s.sharedLists ++ s.newSharedLists i b.classes⟩,
          .record record) := by
  cases hf : b.finish m with
  | error fault => simp only [use, hb, step, hf]
  | ok record => simp only [use, hb, step, hf]

theorem Session.use_build_other (hb : ∀ b, s.products[i]? ≠ some (.builder b)) :
    (s.use m (.build i)).1 = s := by
  cases hp : s.products[i]? with
  | none => simp [use, step, hp]
  | some product =>
    cases product with
    | builder b => exact absurd hp (hb b)
    | other className => simp [use, step, hp]

/-- No list is shared between a builder and a record if no two members share their storage. -/
theorem Session.newSharedLists_eq_nil {p : ClassPair} (h : m.Provides c p)
    (hd : p.slotNames.Nodup) :
    s.newSharedLists i p = [] := by
  rw [newSharedLists, List.map_eq_nil_iff, List.filter_eq_nil_iff]
  intro f hf
  rw [List.any_eq_true]
  rintro ⟨g, hg, hshared⟩
  unfold sharesStorage at hshared
  split at hshared
  · cases hshared
  · rename_i hgr hfr
    have hfg := h.storage_inj hd hf hg (by simpa using hshared)
    exact hfr _ _ (hfg ▸ hgr)
  · cases hshared

theorem Session.afterCall_of_unshared {name : String} {value : Json} (hs : s.sharedLists = []) :
    s.records <+: (s.afterCall i b name value).records ∧
      (s.afterCall i b name value).sharedLists = [] := by
  unfold afterCall
  split <;> simp [extendShared, releaseShared, hs]

/-- Without shared lists, records only grow in number, and a use shares no list. -/
theorem Session.use_unshared {u : Use} (hs : s.sharedLists = [])
    (hp : ∀ (i : Nat) (b : Builder), s.products[i]? = some (.builder b) →
      m.Provides c b.classes ∧ b.classes.slotNames.Nodup) :
    s.records <+: (s.use m u).1.records ∧ (s.use m u).1.sharedLists = [] := by
  cases u with
  | new record =>
    rw [use_new]
    split
    · exact ⟨List.prefix_refl _, hs⟩
    · exact ⟨List.prefix_refl _, hs⟩
  | fill index field method value =>
    by_cases ho : ∃ other, s.products[index]? = some (.builder other)
    · obtain ⟨other, ho⟩ := ho
      rw [use_fill ho]
      split
      · exact ⟨List.prefix_refl _, hs⟩
      · rename_i answer _
        exact afterCall_of_unshared
          (s := ⟨s.products.set index (.builder answer.builder), s.records, s.sharedLists⟩) hs
    · rw [use_fill_other fun other h => ho ⟨other, h⟩]
      exact ⟨List.prefix_refl _, hs⟩
  | build index =>
    by_cases ho : ∃ other, s.products[index]? = some (.builder other)
    · obtain ⟨other, ho⟩ := ho
      rw [use_build ho]
      split
      · exact ⟨List.prefix_refl _, hs⟩
      · obtain ⟨h, hd⟩ := hp index other ho
        exact ⟨List.prefix_append _ _, by rw [hs, newSharedLists_eq_nil h hd]; rfl⟩
    · rw [use_build_other fun other h => ho ⟨other, h⟩]
      exact ⟨List.prefix_refl _, hs⟩

theorem History.unshared (hm : m.IsFrom c items) (hok : ∀ p, m.Creates p → p.slotNames.Nodup)
    (h : History m uses s) : s.sharedLists = [] := by
  induction h with
  | start => rfl
  | use h _ ih =>
    exact (Session.use_unshared ih fun _ _ hb => ⟨hm.provides (h.creates hb), hok _ (h.creates hb)⟩).2

/-- By induction on the uses that come after a record has been given out. -/
theorem History.records_prefix (hm : m.IsFrom c items) (hok : ∀ p, m.Creates p → p.slotNames.Nodup)
    (h : History m uses s) (ht : History m (uses ++ more) t) : s.records <+: t.records := by
  induction more using List.reverseRecOn generalizing t with
  | nil =>
    rw [List.append_nil] at ht
    have hst := h.unique ht
    subst hst
    exact List.prefix_refl _
  | append_singleton more u ih =>
    rw [← List.append_assoc] at ht
    obtain ⟨before, hb, _, rfl⟩ := ht.of_snoc
    exact (ih hb).trans (Session.use_unshared (hb.unshared hm hok) fun _ _ hp =>
      ⟨hm.provides (hb.creates hp), hok _ (hb.creates hp)⟩).1

theorem Session.use_build_answer (h : m.Provides c b.classes) (hp : b.classes.Buildable m)
    {calls : String → List (String × Json)} (hb : s.products[i]? = some (.builder b))
    (hh : b.Holds calls) : (s.use m (.build i)).2 = b.classes.answer calls := by
  rw [use_build hb, Builder.finish_holds h hp hh, ClassPair.answer]
  cases b.classes.members.find? fun f =>
    f.isRequired && (f.accumulated (calls f.name)).isNull <;> rfl

theorem LoadedModule.buildsFills_of_buildable (hm : m.IsFrom c items)
    (hok : ∀ p, m.Creates p → p.Buildable m) : m.BuildsFills := by
  have hholds {uses : List Use} {s : Session} {i : Nat} {b : Builder} (h : History m uses s)
      (hb : s.products[i]? = some (.builder b)) : b.Holds fun field => fills i field uses :=
    Builder.holds_of_history hm (fun p hp => (hok p hp).fillable) h hb
  refine ⟨?_, ?_, ?_⟩
  · intro uses s i b h hb
    exact Session.use_build_answer (hm.provides (h.creates hb)) (hok _ (h.creates hb)) hb (hholds h hb)
  · intro uses s i b h hb
    have hb' : (s.use m (.build i)).1.products[i]? = some (.builder b) := by
      rw [Session.use_build_products]
      exact hb
    have hprovides := hm.provides (h.creates hb)
    have hbuildable := hok _ (h.creates hb)
    rw [Session.use_build_answer hprovides hbuildable hb' (hholds h hb),
      Session.use_build_answer hprovides hbuildable hb (hholds h hb)]
  · intro uses more s t h ht
    exact h.records_prefix hm (fun p hp => (hok p hp).apart.slots) ht

end Records
end RecordBuilders
