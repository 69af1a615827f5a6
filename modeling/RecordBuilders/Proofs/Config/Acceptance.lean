import RecordBuilders.Config.Document
import RecordBuilders.Proofs.Json.DistinctNames
import RecordBuilders.Proofs.Json.Zero
import RecordBuilders.Proofs.Lookup

/-! Which documents are configurations, and what the accepted ones say. Main result: a text is
accepted exactly if its members are as described; each setting is then the given or the conventional
one, and the order of the members plays no part. -/
namespace RecordBuilders
open Target Text

namespace Json
variable {v w : Json}

/-- A number that equals zero. One that is written with a fraction or an exponent is brought to
double precision first. -/
def IsZero : Json → Prop
  | .integer n => n = 0
  | .decimal d => d.size ≤ 2 ^ (Binary64.leastExponent - 1)
  | _ => False

def text? : Json → Option String
  | .string text => some text
  | _ => none

/-- Truth values count as numbers when values are compared, and so `false` is as good as zero. -/
theorem same_zero_iff : v.same (.integer 0) = true ↔ v.IsZero ∨ v = .bool false := by
  cases v with
  | decimal d => simp [same_decimal_zero_iff, IsZero]
  | integer n =>
    have hn := Dyadic.same_zero_iff (.ofInt n)
    rw [Dyadic.ofInt] at hn
    simpa [same, magnitude?, Magnitude.same, IsZero, Dyadic.ofInt] using hn
  | bool b =>
    have hb := Dyadic.same_zero_iff (.ofInt b.toInt)
    cases b <;> simpa [same, magnitude?, Magnitude.same, IsZero, Dyadic.ofInt] using hb
  | nonFinite n => cases n <;> simp [same, magnitude?, NonFinite.magnitude, Magnitude.same, IsZero]
  | _ => simp [same, magnitude?, IsZero]

theorem same_string_iff {text : String} : v.same (.string text) = true ↔ v = .string text := by
  cases v <;> simp [same, magnitude?]

/-- The same value, or objects that have the same members in some order. -/
inductive Reordered : Json → Json → Prop where
  | same (v : Json) : Reordered v v
  | members {ms ns : List (String × Json)} (perm : ms.Perm ns) : Reordered (.object ms) (.object ns)

theorem Reordered.symm (h : Reordered v w) : Reordered w v := by
  cases h with
  | same => exact .same v
  | members perm => exact .members perm.symm

theorem Reordered.text?_eq (h : Reordered v w) : w.text? = v.text? := by
  cases h with
  | same => rfl
  | members => rfl

end Json

/-- An identifier that is no reserved word and has no special meaning within a class. -/
structure Target.IsMemberName (name : String) : Prop where
  identifier : isIdentifier name = true
  free : name ∉ reservedWords
  unguarded : ¬"__".toList <+: name.toList

theorem Target.isUsable_iff {name : String} : isUsable name = true ↔ IsMemberName name := by
  have hguarded : isGuarded name = true ↔ "__".toList <+: name.toList := List.isPrefixOf_iff_prefix
  have hfree : reservedWords.contains name = true ↔ name ∈ reservedWords := by simp
  rw [isUsable, isUnusable, Bool.and_eq_true, Bool.not_eq_true', Bool.or_eq_false_iff,
    ← Bool.not_eq_true, ← Bool.not_eq_true, hguarded, hfree]
  exact ⟨fun h => ⟨h.1, h.2.1, h.2.2⟩, fun h => ⟨h.identifier, h.free, h.unguarded⟩⟩

section Texts
variable {entries : List (String × Json)} {pairs upper lower : TypeMap} {name : String}

theorem exists_textPairs_iff : (∃ pairs, Config.textPairs entries = some pairs) ↔
    ∀ e ∈ entries, ∃ text, e.2 = .string text := by
  induction entries with
  | nil => simp [Config.textPairs]
  | cons entry entries ih =>
    obtain ⟨key, v⟩ := entry
    cases v with
    | string text =>
      rw [List.forall_mem_cons, ← ih]
      simp [Config.textPairs]
    | _ => simp [Config.textPairs]

theorem lookup_textPairs (h : Config.textPairs entries = some pairs) :
    pairs.lookup name = (entries.lookup name).bind Json.text? := by
  induction entries generalizing pairs with
  | nil =>
    cases h
    rfl
  | cons entry entries ih =>
    obtain ⟨key, v⟩ := entry
    cases v with
    | string text =>
      obtain ⟨rest, hrest, rfl⟩ := Option.map_eq_some_iff.mp h
      by_cases hk : name = key
      · simp [hk, Json.text?]
      · simp [List.lookup_cons, beq_false_of_ne hk, ih hrest]
    | _ => cases h

theorem TypeMap.lookup_orElse :
    (TypeMap.orElse upper lower).lookup name = (upper.lookup name).or (lower.lookup name) := by
  rw [orElse, List.lookup_append]
  cases hu : upper.lookup name with
  | some target => rfl
  | none =>
    -- What the upper entries do not name is not among those that they replace.
    induction lower with
    | nil => rfl
    | cons pair lower ih =>
      obtain ⟨key, target⟩ := pair
      simp only [Option.none_or] at ih ⊢
      by_cases hk : name = key
      · simp [← hk, hu]
      · by_cases hkey : (upper.lookup key).isNone = true
        · simp [List.lookup_cons, beq_false_of_ne hk, hkey, ih]
        · simp [List.lookup_cons, beq_false_of_ne hk, hkey, ih]

end Texts

theorem TextSetting.key_of_ofKey? {key : String} {setting : TextSetting}
    (h : ofKey? key = some setting) : setting.key = key := by
  simpa using List.find?_some h

theorem TextSetting.key_inj {t u : TextSetting} (h : t.key = u.key) : t = u := by
  have ht := ofKey?_key t
  rw [h, ofKey?_key] at ht
  exact (Option.some.inj ht).symm

theorem TextSetting.key_ne (t : TextSetting) :
    t.key ≠ "format" ∧ t.key ≠ "version" ∧ t.key ≠ "type_map" := by
  cases t <;> decide

theorem Settings.get_typeMap {s : Settings} {map : TypeMap} (setting : TextSetting) :
    ({ s with typeMap := map } : Settings).get setting = s.get setting := by
  cases setting <;> rfl

namespace Config
variable {members others : List (String × Json)} {s t : Settings}

section Members

/-- What a member that may stand in a document makes of the settings. -/
inductive Applies (s : Settings) : String × Json → Settings → Prop where
  | format (v : Json) : Applies s ("format", v) s
  | version (v : Json) : Applies s ("version", v) s
  | typeMap {entries : List (String × Json)} {pairs : TypeMap}
      (texts : textPairs entries = some pairs) :
      Applies s ("type_map", .object entries) { s with typeMap := TypeMap.orElse pairs .default }
  | text (setting : TextSetting) {text : String} (given : text ≠ "") :
      Applies s (setting.key, .string text) (s.set text setting)

theorem applies_of_applyMember {m : String × Json} (h : applyMember s m = .ok t) :
    Applies s m t := by
  unfold applyMember at h
  split at h
  · cases h
    exact .format _
  · cases h
    exact .version _
  · split at h
    · split at h
      · next hpairs =>
        cases h
        exact .typeMap hpairs
      · cases h
    · cases h
  · split at h
    · cases h
    · next hkey =>
      obtain rfl := TextSetting.key_of_ofKey? hkey
      split at h
      · split at h
        · cases h
        · next hne =>
          cases h
          exact .text _ (by simpa using hne)
      · cases h

theorem Applies.applyMember_eq {m : String × Json} (h : Applies s m t) :
    applyMember s m = .ok t := by
  cases h with
  | format => rfl
  | version => rfl
  | typeMap texts => simp [applyMember, texts]
  | text setting given =>
    obtain ⟨hformat, hversion, htypeMap⟩ := setting.key_ne
    simp [applyMember, TextSetting.ofKey?_key, given]

theorem Applies.again {m : String × Json} (h : Applies s m t) (s' : Settings) :
    ∃ t', Applies s' m t' := by
  cases h with
  | format v => exact ⟨_, .format v⟩
  | version v => exact ⟨_, .version v⟩
  | typeMap texts => exact ⟨_, .typeMap texts⟩
  | text setting given => exact ⟨_, .text setting given⟩

theorem exists_foldlM_iff : (∃ t, members.foldlM applyMember s = .ok t) ↔
    ∀ m ∈ members, ∃ s t, Applies s m t := by
  induction members generalizing s with
  | nil => simp [pure, Except.pure]
  | cons m members ih =>
    rw [List.forall_mem_cons, List.foldlM_cons]
    constructor
    · rintro ⟨t, h⟩
      obtain ⟨s', hm, hms⟩ := bind_eq_ok_iff.mp h
      exact ⟨⟨s, s', applies_of_applyMember hm⟩, ih.mp ⟨t, hms⟩⟩
    · rintro ⟨⟨s', t', hm⟩, hms⟩
      obtain ⟨s', hm⟩ := hm.again s
      obtain ⟨t, ht⟩ := ih.mpr hms
      exact ⟨t, bind_eq_ok_iff.mpr ⟨s', hm.applyMember_eq, ht⟩⟩

/-- What the members give as a setting. -/
def givenText? (members : List (String × Json)) (setting : TextSetting) : Option String :=
  (members.lookup setting.key).bind Json.text?

/-- The target name that the members give to a type name. -/
def givenTarget? (members : List (String × Json)) (name : String) : Option String :=
  ((members.lookup "type_map").bind (Json.member? name)).bind Json.text?

/-- The given setting, or else the conventional one. -/
def chosen (members : List (String × Json)) (setting : TextSetting) : String :=
  (givenText? members setting).getD (({} : Settings).get setting)

theorem get_of_foldlM (hn : (members.map Prod.fst).Nodup)
    (h : members.foldlM applyMember s = .ok t) (setting : TextSetting) :
    t.get setting = (givenText? members setting).getD (s.get setting) := by
  induction members generalizing s with
  | nil =>
    cases h
    rfl
  | cons m members ih =>
    obtain ⟨hfresh, hn⟩ := List.nodup_cons.mp hn
    obtain ⟨s', hm, hms⟩ := bind_eq_ok_iff.mp h
    obtain ⟨hformat, hversion, htypeMap⟩ := setting.key_ne
    have hrest := ih hn hms
    cases applies_of_applyMember hm with
    | format v => simpa [givenText?, List.lookup_cons, beq_false_of_ne hformat] using hrest
    | version v => simpa [givenText?, List.lookup_cons, beq_false_of_ne hversion] using hrest
    | typeMap texts =>
      simpa [givenText?, List.lookup_cons, beq_false_of_ne htypeMap, Settings.get_typeMap]
        using hrest
    | @text other text given =>
      by_cases he : setting = other
      · subst he
        have hnone := lookup_eq_none_of_not_mem hfresh
        simpa [givenText?, hnone, Json.text?, Settings.get_set] using hrest
      · have hne : setting.key ≠ other.key := fun hk => he (TextSetting.key_inj hk)
        simpa [givenText?, List.lookup_cons, beq_false_of_ne hne, Settings.get_set, he] using hrest

theorem typeMap_of_lookup_none (h : members.foldlM applyMember s = .ok t)
    (hnone : members.lookup "type_map" = none) : t.typeMap = s.typeMap := by
  induction members generalizing s with
  | nil =>
    cases h
    rfl
  | cons m members ih =>
    obtain ⟨s', hm, hms⟩ := bind_eq_ok_iff.mp h
    cases applies_of_applyMember hm with
    | format v => exact ih hms (by simpa [List.lookup_cons] using hnone)
    | version v => exact ih hms (by simpa [List.lookup_cons] using hnone)
    | typeMap texts => simp at hnone
    | text other given =>
      have hne := beq_false_of_ne other.key_ne.2.2.symm
      rw [ih hms (by simpa [List.lookup_cons, hne] using hnone), Settings.typeMap_set]

theorem lookup_typeMap_of_foldlM (hn : (members.map Prod.fst).Nodup)
    (h : members.foldlM applyMember s = .ok t) (hs : s.typeMap = .default) (name : String) :
    t.typeMap.lookup name = (givenTarget? members name).or (TypeMap.default.lookup name) := by
  induction members generalizing s with
  | nil =>
    cases h
    rw [hs]
    rfl
  | cons m members ih =>
    obtain ⟨hfresh, hnodup⟩ := List.nodup_cons.mp hn
    obtain ⟨s', hm, hms⟩ := bind_eq_ok_iff.mp h
    cases applies_of_applyMember hm with
    | format v => simpa [givenTarget?, List.lookup_cons] using ih hnodup hms hs
    | version v => simpa [givenTarget?, List.lookup_cons] using ih hnodup hms hs
    | typeMap texts =>
      rw [typeMap_of_lookup_none hms (lookup_eq_none_of_not_mem hfresh), TypeMap.lookup_orElse,
        lookup_textPairs texts]
      simp [givenTarget?, Json.member?]
    | text other given =>
      have hne := beq_false_of_ne other.key_ne.2.2.symm
      have hrest := ih hnodup hms ((Settings.typeMap_set _ _ _).trans hs)
      simpa [givenTarget?, List.lookup_cons, hne] using hrest

end Members

section Documents

/-- The members of a document that is a configuration. Besides zero, `false` passes as its
version. -/
structure Describes (members : List (String × Json)) : Prop where
  format : members.lookup "format" = some (.string "strict-builder-config")
  version : ∃ v, members.lookup "version" = some v ∧ (v.IsZero ∨ v = .bool false)
  known : ∀ m ∈ members, m.1 = "format" ∨ m.1 = "version" ∨ m.1 = "type_map" ∨
    ∃ setting : TextSetting, m.1 = setting.key
  typeMap : ∀ v, members.lookup "type_map" = some v →
    ∃ entries, v = .object entries ∧ ∀ e ∈ entries, ∃ text, e.2 = .string text
  texts : ∀ (setting : TextSetting) v, members.lookup setting.key = some v →
    ∃ text, v = .string text ∧ text ≠ ""
  factory : IsMemberName (chosen members .factoryName)
  build : IsMemberName (chosen members .buildMethod)
  suffix : IsMemberName ("X" ++ chosen members .builderSuffix)

/-- Each setting is the given or the conventional one, and given type names come first. -/
structure Follows (c : Config) (members : List (String × Json)) : Prop where
  texts : ∀ setting, c.get setting = chosen members setting
  typeMap : ∀ name, c.typeMap.lookup name =
    (givenTarget? members name).or (TypeMap.default.lookup name)

theorem isSupported_iff : isSupported members = true ↔
    members.lookup "format" = some (.string "strict-builder-config") ∧
      ∃ v, members.lookup "version" = some v ∧ (v.IsZero ∨ v = .bool false) := by
  rw [isSupported, Bool.and_eq_true]
  apply and_congr
  · cases members.lookup "format" with
    | none => simp
    | some v => simp [Json.same_string_iff, formatName]
  · cases members.lookup "version" with
    | none => simp
    | some v => simp [Json.same_zero_iff]

theorem ofSettings_eq_ok_iff : (∃ c, ofSettings s = .ok c) ↔
    IsMemberName s.factoryName ∧ IsMemberName s.buildMethod ∧
      IsMemberName ("X" ++ s.builderSuffix) := by
  simp only [ofSettings, mapError_eq_ok_iff, Settings.toConfig_eq_ok_iff, ← isUsable_iff]
  constructor
  · rintro ⟨c, rfl⟩
    exact ⟨c.factoryName_usable, c.buildMethod_usable, c.builderSuffix_usable⟩
  · rintro ⟨hfactory, hbuild, hsuffix⟩
    exact ⟨⟨s, hfactory, hbuild, hsuffix⟩, rfl⟩

/-- Every member can be applied, which the description says name by name. -/
theorem forall_applies_iff (hn : (members.map Prod.fst).Nodup) :
    (∀ m ∈ members, ∃ s t, Applies s m t) ↔
      (∀ m ∈ members, m.1 = "format" ∨ m.1 = "version" ∨ m.1 = "type_map" ∨
        ∃ setting : TextSetting, m.1 = setting.key) ∧
      (∀ v, members.lookup "type_map" = some v →
        ∃ entries, v = .object entries ∧ ∀ e ∈ entries, ∃ text, e.2 = .string text) ∧
      ∀ (setting : TextSetting) v, members.lookup setting.key = some v →
        ∃ text, v = .string text ∧ text ≠ "" := by
  constructor
  · intro h
    refine ⟨?_, ?_, ?_⟩
    · intro m hm
      obtain ⟨s, t, ha⟩ := h m hm
      cases ha with
      | format | version | typeMap => simp
      | text setting => exact Or.inr (Or.inr (Or.inr ⟨setting, rfl⟩))
    · intro v hv
      obtain ⟨s, t, ha⟩ := h _ (lookup_mem hv)
      generalize hname : "type_map" = name at ha
      cases ha with
      | format | version => simp at hname
      | typeMap texts => exact ⟨_, rfl, exists_textPairs_iff.mp ⟨_, texts⟩⟩
      | text setting => exact absurd hname.symm setting.key_ne.2.2
    · intro setting v hv
      obtain ⟨s, t, ha⟩ := h _ (lookup_mem hv)
      obtain ⟨hformat, hversion, htypeMap⟩ := setting.key_ne
      generalize setting.key = name at *
      cases ha with
      | format => exact absurd rfl hformat
      | version => exact absurd rfl hversion
      | typeMap => exact absurd rfl htypeMap
      | text other given => exact ⟨_, rfl, given⟩
  · rintro ⟨hknown, htypeMap, htexts⟩ ⟨name, v⟩ hm
    have hlookup := lookup_of_nodup hn hm
    rcases hknown _ hm with rfl | rfl | rfl | ⟨setting, rfl⟩
    · exact ⟨{}, _, .format v⟩
    · exact ⟨{}, _, .version v⟩
    · obtain ⟨entries, rfl, htexts⟩ := htypeMap v hlookup
      obtain ⟨pairs, hpairs⟩ := exists_textPairs_iff.mpr htexts
      exact ⟨{}, _, .typeMap hpairs⟩
    · obtain ⟨text, rfl, hne⟩ := htexts setting v hlookup
      exact ⟨{}, _, .text setting hne⟩

theorem ofJson_object_eq_ok_iff {c : Config} : ofJson (.object members) = .ok c ↔
    isSupported members = true ∧
      ∃ s, members.foldlM applyMember {} = .ok s ∧ ofSettings s = .ok c := by
  cases hs : isSupported members with
  | false => simp [ofJson, hs, throw, throwThe, MonadExceptOf.throw]
  | true =>
    simp only [ofJson, hs, ↓reduceIte, true_and]
    exact bind_eq_ok_iff

theorem Follows.of_ofJson {c : Config} (hn : (members.map Prod.fst).Nodup)
    (h : ofJson (.object members) = .ok c) : c.Follows members := by
  obtain ⟨_, s, hfold, hs⟩ := ofJson_object_eq_ok_iff.mp h
  obtain rfl := Settings.toConfig_eq_ok_iff.mp (mapError_eq_ok_iff.mp hs)
  exact ⟨get_of_foldlM hn hfold, lookup_typeMap_of_foldlM hn hfold rfl⟩

theorem exists_ofJson_iff (hn : (members.map Prod.fst).Nodup) :
    (∃ c, ofJson (.object members) = .ok c) ↔ Describes members := by
  have hnames (s : Settings) (hs : members.foldlM applyMember {} = .ok s) :
      (∃ c, ofSettings s = .ok c) ↔ IsMemberName (chosen members .factoryName) ∧
        IsMemberName (chosen members .buildMethod) ∧
        IsMemberName ("X" ++ chosen members .builderSuffix) := by
    have hget := get_of_foldlM hn hs
    rw [ofSettings_eq_ok_iff]
    exact iff_of_eq (by rw [chosen, chosen, chosen, ← hget, ← hget, ← hget]; rfl)
  simp only [ofJson_object_eq_ok_iff]
  constructor
  · rintro ⟨c, hsupported, s, hfold, hs⟩
    obtain ⟨hformat, hversion⟩ := isSupported_iff.mp hsupported
    have happlies := exists_foldlM_iff.mp ⟨s, hfold⟩
    obtain ⟨hknown, htypeMap, htexts⟩ := (forall_applies_iff hn).mp happlies
    obtain ⟨hfactory, hbuild, hsuffix⟩ := (hnames s hfold).mp ⟨c, hs⟩
    exact ⟨hformat, hversion, hknown, htypeMap, htexts, hfactory, hbuild, hsuffix⟩
  · intro h
    obtain ⟨s, hfold⟩ := exists_foldlM_iff.mpr
      ((forall_applies_iff hn).mpr ⟨h.known, h.typeMap, h.texts⟩)
    obtain ⟨c, hs⟩ := (hnames s hfold).mpr ⟨h.factory, h.build, h.suffix⟩
    exact ⟨c, isSupported_iff.mpr ⟨h.format, h.version⟩, s, hfold, hs⟩

end Documents

section Order

/-- The same members in some order, and in each object among them the same members in some order. -/
def Reorders (members others : List (String × Json)) : Prop :=
  ∃ between, members.Perm between ∧
    between.Forall₂ (fun m n => m.1 = n.1 ∧ m.2.Reordered n.2) others

/-- The same settings, and the same target for every type name. -/
structure Same (c c' : Config) : Prop where
  texts : ∀ setting, c.get setting = c'.get setting
  typeMap : ∀ name, c.typeMap.lookup name = c'.typeMap.lookup name

theorem Reorders.symm (h : Reorders members others) : Reorders others members := by
  obtain ⟨between, hperm, hvalues⟩ := h
  obtain ⟨between', hvalues', hperm'⟩ := List.perm_comp_forall₂ hperm hvalues
  refine ⟨between', hperm'.symm, (hvalues'.imp ?_).flip⟩
  intro m n hmn
  exact ⟨hmn.1.symm, hmn.2.symm⟩

theorem map_fst_of_forall₂ {ms ns : List (String × Json)} {R : Json → Json → Prop}
    (h : ms.Forall₂ (fun m n => m.1 = n.1 ∧ R m.2 n.2) ns) :
    ns.map Prod.fst = ms.map Prod.fst := by
  induction h with
  | nil => rfl
  | cons head _ ih => simp [ih, head.1]

theorem lookup_of_forall₂ {ms ns : List (String × Json)} {R : Json → Json → Prop}
    (h : ms.Forall₂ (fun m n => m.1 = n.1 ∧ R m.2 n.2) ns) (name : String) :
    (ms.lookup name = none ∧ ns.lookup name = none) ∨
      ∃ v w, ms.lookup name = some v ∧ ns.lookup name = some w ∧ R v w := by
  induction h with
  | nil => exact Or.inl ⟨rfl, rfl⟩
  | @cons m n ms ns head _ ih =>
    obtain ⟨key, v⟩ := m
    obtain ⟨key', w⟩ := n
    obtain ⟨rfl, hvw⟩ := head
    by_cases hk : name = key
    · exact Or.inr ⟨v, w, by simp [hk], by simp [hk], hvw⟩
    · simpa [List.lookup_cons, beq_false_of_ne hk] using ih

section Reordering
variable (h : Reorders members others) (hn : (members.map Prod.fst).Nodup)
include h hn

theorem Reorders.lookup (name : String) :
    (members.lookup name = none ∧ others.lookup name = none) ∨
      ∃ v w, members.lookup name = some v ∧ others.lookup name = some w ∧ v.Reordered w := by
  obtain ⟨between, hperm, hvalues⟩ := h
  rw [← lookup_of_perm hn hperm]
  exact lookup_of_forall₂ hvalues name

theorem Reorders.nodup : (others.map Prod.fst).Nodup := by
  obtain ⟨between, hperm, hvalues⟩ := h
  rw [map_fst_of_forall₂ hvalues]
  exact (hperm.map Prod.fst).nodup_iff.mp hn

theorem Reorders.chosen_eq (setting : TextSetting) :
    chosen others setting = chosen members setting := by
  rcases h.lookup hn setting.key with ⟨hm, ho⟩ | ⟨v, w, hm, ho, hvw⟩
  · simp [chosen, givenText?, hm, ho]
  · simp [chosen, givenText?, hm, ho, hvw.text?_eq]

theorem Reorders.givenTarget?_eq (hd : Json.NamesDistinct (.object members)) (name : String) :
    givenTarget? others name = givenTarget? members name := by
  rcases h.lookup hn "type_map" with ⟨hm, ho⟩ | ⟨v, w, hm, ho, hvw⟩
  · simp [givenTarget?, hm, ho]
  · cases hvw with
    | same => simp [givenTarget?, hm, ho]
    | members perm =>
      cases hd with
      | object _ values =>
        cases values _ (lookup_mem hm) with
        | object names _ => simp [givenTarget?, hm, ho, Json.member?, lookup_of_perm names perm]

/-- What one order gives a name, the other gives it as well, up to the order within. -/
theorem Reorders.exists_lookup {name : String} {v : Json} (hv : members.lookup name = some v) :
    ∃ w, others.lookup name = some w ∧ v.Reordered w := by
  rcases h.lookup hn name with ⟨hm, _⟩ | ⟨v', w, hm, ho, hvw⟩
  · rw [hm] at hv
    cases hv
  · rw [hm] at hv
    cases hv
    exact ⟨w, ho, hvw⟩

theorem Reorders.describes (hd : Describes members) : Describes others := by
  have hchosen := h.chosen_eq hn
  refine ⟨?format, ?version, ?known, ?typeMap, ?texts, ?factory, ?build, ?suffix⟩
  case format =>
    obtain ⟨w, hw, hvw⟩ := h.exists_lookup hn hd.format
    cases hvw with
    | same => exact hw
  case version =>
    obtain ⟨v, hv, hzero⟩ := hd.version
    obtain ⟨w, hw, hvw⟩ := h.exists_lookup hn hv
    cases hvw with
    | same => exact ⟨v, hw, hzero⟩
    | members => simp [Json.IsZero] at hzero
  case known =>
    obtain ⟨between, hperm, hvalues⟩ := h
    intro n hmem
    have hname : n.1 ∈ members.map Prod.fst := by
      rw [(hperm.map Prod.fst).mem_iff, ← map_fst_of_forall₂ hvalues]
      exact List.mem_map_of_mem hmem
    obtain ⟨m, hm, he⟩ := List.mem_map.mp hname
    rw [← he]
    exact hd.known m hm
  case typeMap =>
    intro w hw
    obtain ⟨v, hv, hwv⟩ := h.symm.exists_lookup (h.nodup hn) hw
    obtain ⟨entries, rfl, htexts⟩ := hd.typeMap v hv
    cases hwv with
    | same => exact ⟨entries, rfl, htexts⟩
    | members perm => exact ⟨_, rfl, fun e he => htexts e (perm.mem_iff.mp he)⟩
  case texts =>
    intro setting w hw
    obtain ⟨v, hv, hwv⟩ := h.symm.exists_lookup (h.nodup hn) hw
    obtain ⟨text, rfl, hne⟩ := hd.texts setting v hv
    cases hwv with
    | same => exact ⟨text, rfl, hne⟩
  case factory => exact hchosen .factoryName ▸ hd.factory
  case build => exact hchosen .buildMethod ▸ hd.build
  case suffix => exact hchosen .builderSuffix ▸ hd.suffix

end Reordering

end Order

section Texts
variable {text : List Char}

theorem applyMember_ne_malformed {m : String × Json} {e : ConfigError}
    (h : applyMember s m = .error e) (r : Json.ReadError) : e ≠ .malformed r := by
  unfold applyMember at h
  repeat' split at h
  all_goals cases h <;> simp

theorem foldlM_ne_malformed {e : ConfigError} (h : members.foldlM applyMember s = .error e)
    (r : Json.ReadError) : e ≠ .malformed r := by
  induction members generalizing s with
  | nil => cases h
  | cons m members ih =>
    rcases bind_eq_error_iff.mp h with hm | ⟨s', _, hms⟩
    · exact applyMember_ne_malformed hm r
    · exact ih hms

/-- Once a document was read, what is wrong with it is not how it is written. -/
theorem ofJson_ne_malformed {doc : Json} {e : ConfigError} (h : ofJson doc = .error e)
    (r : Json.ReadError) : e ≠ .malformed r := by
  cases doc with
  | object members =>
    cases hs : isSupported members with
    | false =>
      have he : ofJson (.object members) = .error .unsupportedFormat := by simp [ofJson, hs]; rfl
      cases he.symm.trans h
      simp
    | true =>
      have he : ofJson (.object members) = members.foldlM applyMember {} >>= ofSettings := by
        simp [ofJson, hs]
      rcases bind_eq_error_iff.mp (he.symm.trans h) with hfold | ⟨s, _, hset⟩
      · exact foldlM_ne_malformed hfold r
      · obtain ⟨setting, _, rfl⟩ := mapError_eq_error_iff.mp hset
        simp
  | _ =>
    cases h
    simp

theorem ofText_eq_ofJson {doc : Json} (h : Json.parse text = .ok doc) :
    ofText text = ofJson doc := by
  simp [ofText, h, Except.mapError, bind, Except.bind]

theorem exists_ofText_iff : (∃ c, ofText text = .ok c) ↔
    ∃ members, Json.parse text = .ok (.object members) ∧ Describes members := by
  constructor
  · rintro ⟨c, hc⟩
    obtain ⟨doc, hdoc, hc⟩ := bind_eq_ok_iff.mp hc
    have hdoc := mapError_eq_ok_iff.mp hdoc
    cases doc with
    | object members =>
      have hn := (Json.namesDistinct_of_parse hdoc).nodup
      exact ⟨members, hdoc, (exists_ofJson_iff hn).mp ⟨c, hc⟩⟩
    | _ => cases hc
  · rintro ⟨members, hdoc, hd⟩
    have hn := (Json.namesDistinct_of_parse hdoc).nodup
    obtain ⟨c, hc⟩ := (exists_ofJson_iff hn).mpr hd
    exact ⟨c, by rw [ofText_eq_ofJson hdoc, hc]⟩

theorem follows_of_ofText {c : Config} (hdoc : Json.parse text = .ok (.object members))
    (hc : ofText text = .ok c) : c.Follows members :=
  .of_ofJson (Json.namesDistinct_of_parse hdoc).nodup (ofText_eq_ofJson hdoc ▸ hc)

/-- A text is accepted exactly if it is an object whose members are as described. Each setting is
then the given or the conventional one. The order of members neither decides on a document nor
changes what it says. A document that is not accepted has a fault of its own. -/
theorem ofText_accepts (text : List Char) :
    ((∃ c, ofText text = .ok c) ↔
      ∃ members, Json.parse text = .ok (.object members) ∧ Describes members) ∧
    (∀ c, ofText text = .ok c →
      ∃ members, Json.parse text = .ok (.object members) ∧ c.Follows members) ∧
    (∀ other members others, Json.parse text = .ok (.object members) →
      Json.parse other = .ok (.object others) → Reorders members others →
      ((∃ c, ofText text = .ok c) ↔ ∃ c, ofText other = .ok c) ∧
        ∀ c c', ofText text = .ok c → ofText other = .ok c' → c.Same c') ∧
    ∀ doc, Json.parse text = .ok doc → (¬∃ c, ofText text = .ok c) →
      ∃ e, ofText text = .error e ∧ ∀ r, e ≠ .malformed r := by
  refine ⟨exists_ofText_iff, ?follows, ?order, ?fault⟩
  case follows =>
    intro c hc
    obtain ⟨members, hdoc, _⟩ := exists_ofText_iff.mp ⟨c, hc⟩
    exact ⟨members, hdoc, follows_of_ofText hdoc hc⟩
  case order =>
    intro other members others hdoc hother h
    have hd := Json.namesDistinct_of_parse hdoc
    constructor
    · rw [ofText_eq_ofJson hdoc, ofText_eq_ofJson hother, exists_ofJson_iff hd.nodup,
        exists_ofJson_iff (h.nodup hd.nodup)]
      exact ⟨h.describes hd.nodup, h.symm.describes (h.nodup hd.nodup)⟩
    · intro c c' hc hc'
      have hf := follows_of_ofText hdoc hc
      have hf' := follows_of_ofText hother hc'
      constructor
      · intro setting
        rw [hf.texts, hf'.texts, h.chosen_eq hd.nodup]
      · intro name
        rw [hf.typeMap, hf'.typeMap, h.givenTarget?_eq hd.nodup hd]
  case fault =>
    intro doc hdoc hnot
    rw [ofText_eq_ofJson hdoc] at hnot ⊢
    cases hc : ofJson doc with
    | error e => exact ⟨e, rfl, ofJson_ne_malformed hc⟩
    | ok c => exact absurd ⟨c, hc⟩ hnot

/-- A document that has `false` as its version. -/
def falseText : String :=
  "\x7b\"format\":\"strict-builder-config\",\"version\":false,\"build_method\":\"finish\"," ++
    "\"type_map\":\x7b\"Id\":\"UUID\",\"u8\":\"byte\"\x7d\x7d"

/-- The same document from back to front, also within. -/
def falseTextReversed : String :=
  "\x7b\"type_map\":\x7b\"u8\":\"byte\",\"Id\":\"UUID\"\x7d,\"build_method\":\"finish\"," ++
    "\"version\":false,\"format\":\"strict-builder-config\"\x7d"

/-- The document member by member. -/
def falseVersion : List (String × Json) :=
  [("format", .string "strict-builder-config"), ("version", .bool false),
    ("build_method", .string "finish"),
    ("type_map", .object [("Id", .string "UUID"), ("u8", .string "byte")])]

theorem describes_falseVersion : Describes falseVersion where
  format := rfl
  version := ⟨.bool false, rfl, Or.inr rfl⟩
  known := by
    have hbuild : "build_method" = TextSetting.buildMethod.key := rfl
    simp only [falseVersion, List.forall_mem_cons, List.not_mem_nil, false_implies, implies_true,
      and_true]
    exact ⟨by simp, by simp, Or.inr (Or.inr (Or.inr ⟨_, hbuild⟩)), by simp⟩
  typeMap := by
    intro v hv
    cases hv
    exact ⟨_, rfl, by simp⟩
  texts := by
    intro setting v hv
    cases setting <;> cases hv
    exact ⟨"finish", rfl, by decide⟩
  factory := isUsable_iff.mp (by decide +kernel)
  build := isUsable_iff.mp (by decide +kernel)
  suffix := isUsable_iff.mp (by decide +kernel)

/-- The document is accepted in both orders, and means the same. -/
theorem ofText_accepts_reversed : ∃ c c', ofText falseText.toList = .ok c ∧
    ofText falseTextReversed.toList = .ok c' ∧ c.buildMethod = "finish" ∧
    c.typeMap.lookup "u8" = some "byte" ∧ c.typeMap.lookup "bool" = some "bool" ∧ c.Same c' := by
  have hdoc : Json.parse falseText.toList = .ok (.object falseVersion) := by cbv
  have hother : Json.parse falseTextReversed.toList =
      .ok (.object [("type_map", .object [("u8", .string "byte"), ("Id", .string "UUID")]),
        ("build_method", .string "finish"), ("version", .bool false),
        ("format", .string "strict-builder-config")]) := by cbv
  have hreorders : Reorders falseVersion
      [("type_map", .object [("u8", .string "byte"), ("Id", .string "UUID")]),
        ("build_method", .string "finish"), ("version", .bool false),
        ("format", .string "strict-builder-config")] := by
    refine ⟨falseVersion.reverse, (List.reverse_perm _).symm, ?_⟩
    have hwithin : (Json.object [("Id", .string "UUID"), ("u8", .string "byte")]).Reordered
        (.object [("u8", .string "byte"), ("Id", .string "UUID")]) := .members (.swap ..)
    exact .cons ⟨rfl, hwithin⟩ (.cons ⟨rfl, .same _⟩ (.cons ⟨rfl, .same _⟩
      (.cons ⟨rfl, .same _⟩ .nil)))
  obtain ⟨haccepts, hfollows, horder, _⟩ := ofText_accepts falseText.toList
  obtain ⟨c, hc⟩ := haccepts.mpr ⟨_, hdoc, describes_falseVersion⟩
  obtain ⟨_, hread, hf⟩ := hfollows c hc
  cases hdoc.symm.trans hread
  obtain ⟨hboth, hsame⟩ := horder _ _ _ hdoc hother hreorders
  obtain ⟨c', hc'⟩ := hboth.mp ⟨c, hc⟩
  exact ⟨c, c', hc, hc', hf.texts .buildMethod, hf.typeMap "u8", hf.typeMap "bool",
    hsame c c' hc hc'⟩

end Texts
end Config
end RecordBuilders
