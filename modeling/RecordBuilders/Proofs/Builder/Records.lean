import RecordBuilders.Proofs.Builder.Assembly

/-! When builders give the records that their calls ask for. Main result: they do so for every history
exactly if the members of their classes are apart and nothing hides what the build method looks up. -/
namespace RecordBuilders
open Target

section Answers
variable {m : LoadedModule} {c : Config} {items : List Item} {s : Session} {i : Nat} {b : Builder}
  {r : BuiltRecord}

theorem Session.finish_of_record (hb : s.products[i]? = some (.builder b))
    (hr : (s.use m (.build i)).2 = .record r) : b.finish m = .ok r := by
  rw [use_build hb] at hr
  cases hf : b.finish m with
  | error fault =>
    rw [hf] at hr
    cases fault <;> cases hr
  | ok record =>
    rw [hf] at hr
    cases hr
    rfl

theorem Session.finish_of_missing {field : MissingField} (hb : s.products[i]? = some (.builder b))
    (hr : (s.use m (.build i)).2 = .missing field) : b.finish m = .error (.missing field) := by
  rw [use_build hb] at hr
  cases hf : b.finish m with
  | error fault =>
    rw [hf] at hr
    cases fault with
    | missing found =>
      cases hr
      rfl
    | unusable fault => cases hr
  | ok record =>
    rw [hf] at hr
    cases hr

namespace Builder

/-- Only the build method gives records. -/
theorem finish_eq_ok (h : b.finish m = .ok r) :
    b.classes.attribute? b.classes.buildMethod = some (.method .build) ∧ b.build m = .ok r := by
  obtain ⟨meaning, hm, h⟩ := bind_eq_ok_iff.mp h
  split at h
  · refine ⟨?_, h⟩
    have hm := mapError_eq_ok_iff.mp hm
    unfold Builder.meaning at hm
    split at hm
    · cases hm
    · split at hm
      · rename_i hp
        cases hm
        unfold plainMeaning? at hp
        split at hp
        · rename_i hv
          cases hl : b.slots.lookup b.classes.buildMethod <;> simp [hl] at hp
        · rename_i hv
          cases hp
          exact hv
        · cases hp
        · cases hp
        · cases hp
      · cases hm
  · cases h
  · cases h
  · cases h
  · cases h

/-- What has to be there for a record to come out. -/
theorem build_eq_ok (h : b.build m = .ok r) :
    b.classes.builderName b.classes.record ≠ receiverName ∧
      ∃ k values, m.class? (b.classes.builderName b.classes.record) = some k ∧
        b.argumentValues m = .ok values ∧
        construct k (b.classes.argumentNames.zip values) = .ok r := by
  obtain ⟨_, _, h⟩ := bind_eq_ok_iff.mp h
  have h := mapError_eq_ok_iff.mp h
  unfold assemble at h
  dsimp only at h
  split at h
  · obtain ⟨_, _, h⟩ := bind_eq_ok_iff.mp h
    cases h
  · rename_i hname
    refine ⟨hname, ?_⟩
    split at h
    · cases h
    · rename_i k hk
      obtain ⟨values, hv, h⟩ := bind_eq_ok_iff.mp h
      exact ⟨k, values, hk, hv, h⟩

theorem construct_builder_ne_ok {p : ClassPair} {arguments : List (String × Json)} :
    construct (.builder p) arguments ≠ .ok r := by
  unfold construct
  dsimp only
  split <;> simp

/-- The record that comes out is one of the builder's own class, with one value for each field. -/
theorem of_finish (hm : m.IsFrom c items) (hp : m.Provides c b.classes) (h : b.finish m = .ok r) :
    b.classes.builderName b.classes.buildMethod = b.classes.buildMethod ∧
      b.classes.record ≠ receiverName ∧
      m.class? b.classes.record = some (.record b.classes) ∧
      ∃ values, b.argumentValues m = .ok values ∧
        r = ⟨b.classes.record, (b.classes.members.map fun f => f.name).zip values⟩ := by
  have hw := hp.wellNamed
  have hrecord : b.classes.builderName b.classes.record = b.classes.record :=
    hw.builderName_record.trans hw.recordClass_eq
  obtain ⟨hattribute, hbuild⟩ := finish_eq_ok h
  obtain ⟨hname, k, values, hk, hv, hc⟩ := build_eq_ok hbuild
  rw [hrecord] at hname hk
  obtain ⟨hmem, hkname⟩ := LoadedModule.class?_mem hk
  cases k with
  | builder q => exact absurd hc construct_builder_ne_ok
  | record q =>
    have hq := LoadedModule.mem_pairs_of_record hmem
    have hqname : q.record = b.classes.record :=
      (hm.sources.wellNamed q hq).recordClass_eq.symm.trans hkname
    have hqp := List.inj_on_of_nodup_map hm.sources.records_nodup hq hp.mem hqname
    subst hqp
    refine ⟨ClassPair.method?_eq_build (ClassPair.attribute?_eq_method hattribute), hname, hk,
      values, hv, ?_⟩
    have hl : values.length = b.classes.members.length := (mapM_eq_ok_iff.mp hv).1.symm
    rw [construct_eq hw values hl] at hc
    exact (Except.ok.inj hc).symm

/-- A single value is passed on as it is. -/
theorem argument_of_single {f : Member} (h : f.isRepeatable = false) :
    b.argument m f = b.read (b.classes.storage f) := by
  unfold argument
  cases hr : f.role with
  | required => exact bind_pure _
  | optional inner => exact bind_pure _
  | repeatable element method => simp [Member.isRepeatable, hr] at h

theorem copied_eq_ok {value : Json} {copy : List Json} (h : copied m value = .ok copy) :
    value.elements? = some copy ∧ (m.class? "list").bind (·.callFault? 1) = none := by
  unfold copied at h
  split at h
  · cases h
  · rename_i hc he
    cases h
    exact ⟨he, hc⟩
  · cases h

/-- A sequence is passed on as a copy, which no other value has. -/
theorem argument_of_repeatable {f : Member} (h : f.isRepeatable = true) {value : Json}
    (ha : b.argument m f = .ok value) :
    ∃ stored copy, b.read (b.classes.storage f) = .ok stored ∧ copied m stored = .ok copy := by
  obtain ⟨stored, hread, ha⟩ := bind_eq_ok_iff.mp ha
  cases hr : f.role with
  | required => simp [Member.isRepeatable, hr] at h
  | optional inner => simp [Member.isRepeatable, hr] at h
  | repeatable element method =>
    rw [hr] at ha
    obtain ⟨copy, hcopy, _⟩ := bind_eq_ok_iff.mp ha
    exact ⟨stored, copy, hread, hcopy⟩

theorem argument_congr {f g : Member} (hr : f.isRepeatable = g.isRepeatable)
    (he : b.classes.storage f = b.classes.storage g) : b.argument m f = b.argument m g := by
  unfold argument
  rw [he]
  cases hf : f.role <;> cases hg : g.role <;> simp [Member.isRepeatable, hf, hg] at hr ⊢

/-- A record got its values as arguments. -/
theorem argument_of_finish (hm : m.IsFrom c items) (hp : m.Provides c b.classes)
    {value : HintedMember → Json}
    (h : b.finish m = .ok ⟨b.classes.record, b.classes.members.map fun f => (f.name, value f)⟩) :
    ∀ f ∈ b.classes.members, b.argument m f.toMember = .ok (value f) := by
  obtain ⟨_, _, _, values, hv, hr⟩ := of_finish hm hp h
  obtain ⟨hl, hall⟩ := mapM_eq_ok_iff.mp hv
  have hvalues : values = b.classes.members.map value := by
    have hzip := congrArg (List.map Prod.snd) (BuiltRecord.mk.inj hr).2
    rw [List.map_snd_zip (Nat.le_of_eq (by rw [List.length_map, hl])), List.map_map] at hzip
    exact hzip.symm
  intro f hf
  apply hall (f, value f)
  rw [hvalues, ← List.map_id b.classes.members, List.map_map, List.zip_map']
  exact List.mem_map_of_mem hf

section HiddenError
variable {p : ClassPair} {field : MissingField}

theorem checkMember_ne_missing (h : m.class? "_MissingFieldError" = some (.builder p))
    (f : Member) :
    b.checkMember m f ≠ .error (.missing field) := by
  intro hf
  unfold checkMember at hf
  split at hf
  · rcases bind_eq_error_iff.mp hf with hf | ⟨value, _, hf⟩
    · obtain ⟨_, _, he⟩ := mapError_eq_error_iff.mp hf
      cases he
    · split at hf
      · unfold missingFault at hf
        rw [h] at hf
        cases hf
      · cases hf
  · cases hf

theorem build_ne_missing (h : m.class? "_MissingFieldError" = some (.builder p)) :
    b.build m ≠ .error (.missing field) := by
  intro hf
  rcases bind_eq_error_iff.mp hf with hf | ⟨_, _, hf⟩
  · generalize b.classes.members = members at hf
    induction members with
    | nil => cases hf
    | cons f members ih =>
      rcases bind_eq_error_iff.mp hf with hf | ⟨_, _, hf⟩
      · exact checkMember_ne_missing h f.toMember hf
      · exact ih hf
  · obtain ⟨_, _, he⟩ := mapError_eq_error_iff.mp hf
    cases he

/-- Where the class of the error is hidden, no field is reported as missing. -/
theorem finish_ne_missing (h : m.class? "_MissingFieldError" = some (.builder p)) :
    b.finish m ≠ .error (.missing field) := by
  intro hf
  rcases bind_eq_error_iff.mp hf with hf | ⟨meaning, _, hf⟩
  · obtain ⟨_, _, he⟩ := mapError_eq_error_iff.mp hf
    cases he
  · split at hf
    · exact build_ne_missing h hf
    · cases hf
    · cases hf
    · cases hf
    · cases hf

end HiddenError
end Builder
end Answers

/-! A history in which every required field of a builder has been set, so that building must give a
record, in which the effect of any further call shows. -/

/-- Sets fields by the methods of their names. -/
def settings (i : Nat) (fs : List HintedMember) : List Use :=
  fs.map fun f => .fill i f.name f.name (.bool true)

section Settings
variable {m : LoadedModule} {uses : List Use} {s : Session} {i : Nat} {b : Builder}

theorem fills_append {field : String} {more : List Use} :
    fills i field (uses ++ more) = fills i field uses ++ fills i field more :=
  List.filterMap_append

theorem mem_fills_settings {fs : List HintedMember} {field : String} {fill : String × Json}
    (h : fill ∈ fills i field (settings i fs)) :
    fill.2 = .bool true ∧ ∃ f ∈ fs, f.name = field := by
  obtain ⟨u, hu, he⟩ := List.mem_filterMap.mp h
  obtain ⟨f, hf, rfl⟩ := List.mem_map.mp hu
  simp only [true_and] at he
  split at he
  · rename_i hn
    cases he
    exact ⟨rfl, f, hf, hn⟩
  · cases he

theorem fills_settings_ne_nil {fs : List HintedMember} {f : HintedMember} (hf : f ∈ fs) :
    fills i f.name (settings i fs) ≠ [] := by
  intro hn
  have hu : Use.fill i f.name f.name (.bool true) ∈ settings i fs := List.mem_map_of_mem hf
  have hfill := List.filterMap_eq_nil_iff.mp hn _ hu
  simp at hfill

theorem History.settings (h : History m uses s) (hb : s.products[i]? = some (.builder b))
    (fs : List HintedMember) (hfs : ∀ f ∈ fs, f ∈ b.classes.members) :
    ∃ t after, History m (uses ++ settings i fs) t ∧ t.products[i]? = some (.builder after) ∧
      after.classes = b.classes := by
  induction fs generalizing uses s b with
  | nil => exact ⟨s, b, by simpa [RecordBuilders.settings] using h, hb, rfl⟩
  | cons f fs ih =>
    obtain ⟨hf, hfs⟩ := List.forall_mem_cons.mp hfs
    have hnext := h.use (u := .fill i f.name f.name (.bool true))
      ⟨b, hb, f, hf, rfl, f.name_mem_methods⟩
    obtain ⟨next, hn, hclasses⟩ :=
      Session.use_keeps (m := m) (u := .fill i f.name f.name (.bool true)) hb
    obtain ⟨t, after, ht, ha, hc⟩ := ih hnext hn (hclasses ▸ hfs)
    refine ⟨t, after, ?_, ha, hc.trans hclasses⟩
    rw [List.append_assoc] at ht
    exact ht

end Settings

/-- Every required field has been set, and nothing else has been called. -/
def Target.ClassPair.Set (p : ClassPair) (calls : String → List (String × Json)) : Prop :=
  ∀ f ∈ p.members, (f.isRequired = true → f.accumulated (calls f.name) = .bool true) ∧
    (f.isRequired = false → calls f.name = [])

section Set
variable {m : LoadedModule} {c : Config} {items : List Item} {p : ClassPair} {b : Builder}
  {name : String} {calls : String → List (String × Json)} {f : HintedMember}

theorem Member.accumulated_of_all {f : Member} {fills : List (String × Json)} {value : Json}
    (hr : f.isRequired = true) (hne : fills ≠ []) (hall : ∀ fill ∈ fills, fill.2 = value) :
    f.accumulated fills = value := by
  cases hrole : f.role with
  | required =>
    rw [accumulated, hrole, List.getLast?_eq_some_getLast hne]
    exact hall _ (List.getLast_mem hne)
  | optional inner => simp [isRequired, hrole] at hr
  | repeatable element method => simp [isRequired, hrole] at hr

theorem Target.ClassPair.Set.blank (h : p.Set calls) (hf : f ∈ p.members) :
    f.Blank (calls f.name) := by
  by_cases hr : f.isRequired = true
  · constructor
    · rw [(h f hf).1 hr]
      simp [probe]
    · intro method ha
      cases hrole : f.role with
      | required => simp [Member.actions, hrole] at ha
      | optional inner => simp [Member.actions, hrole] at ha
      | repeatable element append => simp [Member.isRequired, hrole] at hr
  · rw [(h f hf).2 (Bool.eq_false_iff.mpr hr)]
    exact f.blank_nil

theorem Target.ClassPair.Set.elements?_eq_none (h : p.Set calls) (hf : f ∈ p.members)
    (hr : f.isRepeatable = false) : (f.accumulated (calls f.name)).elements? = none := by
  cases hrole : f.role with
  | required =>
    rw [(h f hf).1 (by simp [Member.isRequired, hrole])]
    rfl
  | optional inner =>
    rw [(h f hf).2 (by simp [Member.isRequired, hrole])]
    simp [Member.accumulated, hrole, Json.elements?]
  | repeatable element method => simp [Member.isRepeatable, hrole] at hr

/-- Set required fields are not null, and still are not after the probe. -/
theorem Target.ClassPair.answer_of_present
    (h : ∀ f ∈ p.members, f.isRequired = true → (f.accumulated (calls f.name)).isNull = false) :
    p.answer calls =
      .record ⟨p.record, p.members.map fun f => (f.name, f.accumulated (calls f.name))⟩ := by
  have hn : p.members.find?
      (fun f => f.isRequired && (f.accumulated (calls f.name)).isNull) = none := by
    rw [List.find?_eq_none]
    intro f hf hnull
    obtain ⟨hr, hnull⟩ := Bool.and_eq_true_iff.mp hnull
    rw [h f hf hr] at hnull
    cases hnull
  rw [answer, hn]

/-- Setting the required fields of a new builder. -/
theorem History.exists_set (hm : m.IsFrom c items) (hc : m.create name = .ok (.builder b)) :
    ∃ uses t after, History m uses t ∧ t.products[0]? = some (.builder after) ∧
      after.classes = b.classes ∧ b.classes.Set fun field => fills 0 field uses := by
  have hp := (hm.new_of_create hc).1
  obtain ⟨h, hb⟩ := History.of_create hc
  obtain ⟨t, after, ht, ha, hclasses⟩ :=
    h.settings hb (b.classes.members.filter fun f => f.isRequired)
      fun f hf => (List.mem_filter.mp hf).1
  refine ⟨_, t, after, ht, ha, hclasses, ?_⟩
  intro f hf
  dsimp only
  rw [fills_append]
  constructor
  · intro hr
    exact Member.accumulated_of_all hr
      (fills_settings_ne_nil (List.mem_filter.mpr ⟨hf, hr⟩))
      fun fill hfill => (mem_fills_settings hfill).1
  · intro hr
    refine List.eq_nil_iff_forall_not_mem.mpr fun fill hfill => ?_
    have hsetting := (List.mem_append.mp hfill).resolve_left (by simp [fills])
    obtain ⟨_, g, hg, hname⟩ := mem_fills_settings hsetting
    obtain ⟨hg, hgr⟩ := List.mem_filter.mp hg
    rw [hp.name_inj hg hf hname, hr] at hgr
    cases hgr

end Set

/-- What the record of a builder has for a field. -/
def Session.recorded (m : LoadedModule) (i : Nat) (s : Session) (f : HintedMember) : Json :=
  match (s.use m (.build i)).2 with
  | .record r => (r.fields.lookup f.name).getD .null
  | _ => .null

section Converse
variable {m : LoadedModule} {c : Config} {items : List Item} {uses : List Use} {s : Session}
  {b : Builder} {name : String} {f g : HintedMember}

theorem Session.recorded_eq {i : Nat} {value : HintedMember → Json} (hp : m.Provides c b.classes)
    (hr : (s.use m (.build i)).2 =
      .record ⟨b.classes.record, b.classes.members.map fun f => (f.name, value f)⟩)
    (hf : f ∈ b.classes.members) : s.recorded m i f = value f := by
  have hd : ((b.classes.members.map fun f => (f.name, value f)).map Prod.fst).Nodup := by
    rw [List.map_map]
    exact hp.wellNamed.fields_nodup
  have hl := lookup_of_nodup hd (List.mem_map_of_mem hf)
  simp [recorded, hr, hl]

namespace LoadedModule.BuildsFills

theorem record_of_present (hk : m.BuildsFills) (h : History m uses s)
    (hb : s.products[0]? = some (.builder b))
    (hpresent : ∀ f ∈ b.classes.members, f.isRequired = true →
      (f.accumulated (fills 0 f.name uses)).isNull = false) :
    (s.use m (.build 0)).2 = .record ⟨b.classes.record,
      b.classes.members.map fun f => (f.name, f.accumulated (fills 0 f.name uses))⟩ := by
  rw [hk.answer h hb]
  exact ClassPair.answer_of_present hpresent

theorem present_of_set (hset : b.classes.Set fun field => fills 0 field uses) :
    ∀ f ∈ b.classes.members, f.isRequired = true →
      (f.accumulated (fills 0 f.name uses)).isNull = false := by
  intro f hf hr
  rw [(hset f hf).1 hr]
  rfl

/-- One more call leaves no required field null. -/
theorem present_of_probe (hp : m.Provides c b.classes)
    (hset : b.classes.Set fun field => fills 0 field uses) (hf : f ∈ b.classes.members)
    {method : String} (hm : method ∈ f.methods) :
    ∀ g ∈ b.classes.members, g.isRequired = true →
      (g.accumulated (fills 0 g.name (uses ++ [.fill 0 f.name method probe]))).isNull = false := by
  intro g hg hr
  rw [fills_snoc_fill]
  split
  · rename_i he
    have hfg := hp.name_inj hf hg he.2
    subst hfg
    obtain ⟨action, ha⟩ := Member.exists_action hm
    rw [(hset.blank hf).accumulated_probe ha]
    split <;> rfl
  · exact present_of_set hset g hg hr

/-- The records tell what the fields have accumulated. -/
theorem shows (hk : m.BuildsFills) (hp : m.Provides c b.classes) (h : History m uses s)
    (hb : s.products[0]? = some (.builder b))
    (hset : b.classes.Set fun field => fills 0 field uses) :
    s.Shows m 0 b (fun field => fills 0 field uses) (Session.recorded m 0) := by
  refine ⟨hb, fun f hf => hset.blank hf, ?_, ?_⟩
  · intro f hf
    exact Session.recorded_eq hp (hk.record_of_present h hb (present_of_set hset)) hf
  · intro f hf method hmethod g hg
    have hnext := h.use (u := .fill 0 f.name method probe) ⟨b, hb, f, hf, rfl, hmethod⟩
    obtain ⟨after, ha, hclasses⟩ := Session.use_keeps (m := m) (u := .fill 0 f.name method probe) hb
    have hpresent := present_of_probe hp hset hf hmethod
    rw [← hclasses] at hp hpresent hg
    rw [Session.recorded_eq hp (hk.record_of_present hnext ha hpresent) hg, fills_snoc_fill]
    simp only [true_and]

theorem arguments (hk : m.BuildsFills) (hm : m.IsFrom c items) (h : History m uses s)
    (hb : s.products[0]? = some (.builder b))
    (hpresent : ∀ f ∈ b.classes.members, f.isRequired = true →
      (f.accumulated (fills 0 f.name uses)).isNull = false) :
    ∀ f ∈ b.classes.members, b.argument m f.toMember = .ok (f.accumulated (fills 0 f.name uses)) :=
  Builder.argument_of_finish hm (hm.provides (h.creates hb))
    (Session.finish_of_record hb (hk.record_of_present h hb hpresent))

/-- A single value and a sequence are never kept in one place. -/
theorem repeatable_of_storage (hk : m.BuildsFills) (hm : m.IsFrom c items) (h : History m uses s)
    (hb : s.products[0]? = some (.builder b))
    (hset : b.classes.Set fun field => fills 0 field uses) (hf : f ∈ b.classes.members)
    (hg : g ∈ b.classes.members)
    (he : b.classes.storage f.toMember = b.classes.storage g.toMember)
    (hr : g.isRepeatable = true) : f.isRepeatable = true := by
  by_contra hn
  have hn := Bool.eq_false_iff.mpr hn
  have harguments := hk.arguments hm h hb (present_of_set hset)
  have hread := (Builder.argument_of_single hn).symm.trans (harguments f hf)
  obtain ⟨stored, copy, hstored, hcopy⟩ := Builder.argument_of_repeatable hr (harguments g hg)
  rw [← he, hread] at hstored
  cases hstored
  have hnone := hset.elements?_eq_none hf hn
  rw [(Builder.copied_eq_ok hcopy).1] at hnone
  cases hnone

/-- Members with the same storage would have the same values in every record. -/
theorem slotNames_nodup (hk : m.BuildsFills) (hm : m.IsFrom c items) (h : History m uses s)
    (hb : s.products[0]? = some (.builder b))
    (hset : b.classes.Set fun field => fills 0 field uses) : b.classes.slotNames.Nodup := by
  have hp := hm.provides (h.creates hb)
  rw [← hp.wellNamed.storages_eq]
  refine hp.wellNamed.fields_nodup.of_map.map_on fun f hf g hg he => ?_
  by_contra hne
  have hname : f.name ≠ g.name := fun hn => hne (hp.name_inj hf hg hn)
  have hr : f.isRepeatable = g.isRepeatable := by
    rw [Bool.eq_iff_iff]
    exact ⟨hk.repeatable_of_storage hm h hb hset hg hf he.symm,
      hk.repeatable_of_storage hm h hb hset hf hg he⟩
  obtain ⟨action, ha⟩ := Member.exists_action f.name_mem_methods
  have hnext := h.use (u := .fill 0 f.name f.name probe) ⟨b, hb, f, hf, rfl, f.name_mem_methods⟩
  obtain ⟨after, hafter, hclasses⟩ := Session.use_keeps (m := m) (u := .fill 0 f.name f.name probe) hb
  have hbefore := hk.arguments hm h hb (present_of_set hset)
  have hlater := hk.arguments hm hnext hafter
    (hclasses ▸ present_of_probe hp hset hf f.name_mem_methods)
  rw [hclasses] at hlater
  have hsame := Builder.argument_congr (m := m) (b := b) hr he
  have hsameAfter := Builder.argument_congr (m := m) (b := after) hr (hclasses ▸ he)
  rw [hbefore f hf, hbefore g hg] at hsame
  rw [hlater f hf, hlater g hg, fills_snoc_fill, fills_snoc_fill, if_pos ⟨rfl, rfl⟩,
    if_neg fun hn => hname hn.2] at hsameAfter
  exact (hset.blank hf).accumulated_probe_ne ha
    (Except.ok.inj (hsameAfter.trans hsame.symm))

/-- A new builder reports its first required field, if it has one. -/
theorem error_eq_none (hk : m.BuildsFills) (hm : m.IsFrom c items)
    (hc : m.create name = .ok (.builder b)) (hr : ∃ f ∈ b.classes.members, f.isRequired = true) :
    m.class? "_MissingFieldError" = none := by
  obtain ⟨f, hf, hr⟩ := hr
  obtain ⟨h, hb⟩ := History.of_create hc
  have hnull : (f.isRequired && (f.accumulated []).isNull) = true := by
    cases hrole : f.role with
    | required => simp [Member.isRequired, Member.accumulated, hrole, Json.isNull]
    | optional inner => simp [Member.isRequired, hrole] at hr
    | repeatable element method => simp [Member.isRequired, hrole] at hr
  have hanswer := hk.answer h hb
  have hsome : (b.classes.members.find? fun f =>
      f.isRequired && (f.accumulated (fills 0 f.name [.new name])).isNull).isSome := by
    rw [List.find?_isSome]
    exact ⟨f, hf, hnull⟩
  obtain ⟨g, hg⟩ := Option.isSome_iff_exists.mp hsome
  rw [ClassPair.answer, hg] at hanswer
  have hfinish := Session.finish_of_missing hb hanswer
  cases hl : m.class? "_MissingFieldError" with
  | none => rfl
  | some k =>
    obtain ⟨p, rfl⟩ := hm.sources.class?_header (by decide) hl
    exact absurd hfinish (Builder.finish_ne_missing hl)

theorem buildable (hk : m.BuildsFills) (hm : m.IsFrom c items)
    (hc : m.create name = .ok (.builder b)) : b.classes.Buildable m := by
  obtain ⟨uses, s, after, h, ha, hclasses, hset⟩ := History.exists_set hm hc
  have herror : (∃ f ∈ b.classes.members, f.isRequired = true) →
      m.class? "_MissingFieldError" = none :=
    hk.error_eq_none hm hc
  rw [← hclasses] at hset herror ⊢
  have hp := hm.provides (h.creates ha)
  have hs := hk.shows hp h ha hset
  have hfinish := Session.finish_of_record ha (hk.record_of_present h ha (present_of_set hset))
  obtain ⟨hbuild, hunhidden, hrecord, _⟩ := Builder.of_finish hm hp hfinish
  refine ⟨⟨hk.slotNames_nodup hm h ha hset, hs.definitions_nodup hp, hs.unasked⟩, hbuild, hunhidden,
    hrecord, ?_, herror⟩
  rintro ⟨f, hf, hr⟩
  obtain ⟨stored, copy, _, hcopy⟩ :=
    Builder.argument_of_repeatable hr (hk.arguments hm h ha (present_of_set hset) f hf)
  cases hl : m.class? "list" with
  | none => rfl
  | some k =>
    obtain ⟨p, rfl⟩ := hm.sources.class?_header (by decide) hl
    obtain ⟨fault, hfault⟩ := Builder.copied_of_hidden hl stored
    rw [hfault] at hcopy
    cases hcopy

end LoadedModule.BuildsFills
end Converse

end RecordBuilders
