import RecordBuilders.Proofs.Syntax.SourceGrammar

/-! What occurs in a source text. A phrase may stand at any depth and also where the declarations
keep nothing of it, as in the fields of a variant. What they keep occurs in the text. -/
namespace RecordBuilders.Syntax
open Text

namespace Grammar

section Items
variable {α : Type} {P : List Token → α → Prop} {us : List Token} {as : List α}

/-- Every item of a list is a phrase in the tokens of the list. -/
theorem Many.exists_phrase (h : Many P us as) : ∀ a ∈ as, ∃ vs, vs <:+: us ∧ P vs a := by
  induction h with
  | nil => simp
  | cons head _ ih =>
    refine List.forall_mem_cons.mpr ⟨⟨_, (List.prefix_append _ _).isInfix, head⟩, fun a ha => ?_⟩
    obtain ⟨vs, hvs, hp⟩ := ih a ha
    exact ⟨vs, hvs.trans (List.suffix_append _ _).isInfix, hp⟩

theorem CommaItems.exists_phrase (h : CommaItems P us as) :
    ∀ a ∈ as, ∃ vs, vs <:+: us ∧ P vs a := by
  induction h with
  | last head => simpa using ⟨_, List.infix_refl _, head⟩
  | lastComma head => simpa using ⟨_, (List.prefix_append _ _).isInfix, head⟩
  | @cons ts us _ _ p head _ ih =>
    refine List.forall_mem_cons.mpr ⟨⟨_, (List.prefix_append _ _).isInfix, head⟩, fun a ha => ?_⟩
    obtain ⟨vs, hvs, hp⟩ := ih a ha
    have hus : us <:+: ts ++ ⟨.symbol .comma, p⟩ :: us := ⟨ts ++ [⟨.symbol .comma, p⟩], [], by simp⟩
    exact ⟨vs, hvs.trans hus, hp⟩

theorem Enclosed.exists_phrase {opening closing : Symbol} (h : Enclosed opening closing P us as) :
    ∀ a ∈ as, ∃ vs, vs <:+: us ∧ P vs a := by
  cases h with
  | empty => simp
  | items items =>
    intro a ha
    obtain ⟨vs, hvs, hp⟩ := items.exists_phrase a ha
    exact ⟨vs, hvs.trans ⟨[_], [_], rfl⟩, hp⟩

/-- What follows for an item from a property of its tokens holds of all items of a list whose tokens
have the property. -/
theorem forall_items {T : Token → Prop} {Q : α → Prop} (ht : ∀ t ∈ us, T t)
    (h : ∀ a ∈ as, ∃ vs, vs <:+: us ∧ ((∀ t ∈ vs, T t) → Q a)) : ∀ a ∈ as, Q a := by
  intro a ha
  obtain ⟨vs, hvs, hq⟩ := h a ha
  exact hq fun t htv => ht t (hvs.subset htv)

end Items

/-- A field of either form. -/
def FieldPhrase (ts : List Token) (f : Field) : Prop :=
  NamedFieldPhrase ts f ∨ TupleFieldPhrase ts f

section Fields
variable {ts : List Token} {f : Field}

theorem FieldPhrase.exists_type (h : FieldPhrase ts f) :
    ∃ us, us <:+: ts ∧ TypePhrase us f.type := by
  rcases h with @⟨as, vs, us, _, _, name, _, p, q, _, _, type⟩ | ⟨_, _, type⟩
  · exact ⟨us, ⟨as ++ vs ++ [⟨.name name, p⟩, ⟨.symbol .colon, q⟩], [], by simp⟩, type⟩
  · exact ⟨_, (List.suffix_append _ _).isInfix, type⟩

theorem FieldPhrase.exists_attribute (h : FieldPhrase ts f) :
    ∀ a ∈ f.annotations, ∃ us, us <:+: ts ∧ AttributePhrase us a := by
  intro a ha
  rcases h with ⟨attributes, _, _⟩ | ⟨attributes, _, _⟩
  · obtain ⟨us, hus, hp⟩ := attributes.exists_phrase a ha
    rw [List.append_assoc]
    exact ⟨us, hus.trans (List.prefix_append _ _).isInfix, hp⟩
  · obtain ⟨us, hus, hp⟩ := attributes.exists_phrase a ha
    rw [List.append_assoc]
    exact ⟨us, hus.trans (List.prefix_append _ _).isInfix, hp⟩

theorem StructFields.exists_field {fields : List Field} (h : StructFields ts fields) :
    ∀ f ∈ fields, ∃ us, us <:+: ts ∧ FieldPhrase us f := by
  intro f hf
  cases h with
  | named list =>
    obtain ⟨us, hus, hp⟩ := list.exists_phrase f hf
    exact ⟨us, hus, .inl hp⟩
  | tuple list =>
    obtain ⟨us, hus, hp⟩ := list.exists_phrase f hf
    exact ⟨us, hus.trans (List.prefix_append _ _).isInfix, .inr hp⟩
  | unit => cases hf

theorem BodyPhrase.exists_field {attributes : List Attribute} {d : Declaration}
    (h : BodyPhrase attributes ts d) : ∀ f ∈ d.fields, ∃ us, us <:+: ts ∧ FieldPhrase us f := by
  have hinside {t u : Token} {us : List Token} : us <:+: t :: u :: us := ⟨[t, u], [], by simp⟩
  intro f hf
  cases h with
  | struct inside =>
    obtain ⟨us, hus, hp⟩ := inside.exists_field f hf
    exact ⟨us, hus.trans hinside, hp⟩
  | union inside =>
    obtain ⟨us, hus, hp⟩ := inside.exists_phrase f hf
    exact ⟨us, hus.trans hinside, .inl hp⟩
  | enum => cases hf

theorem DeclarationPhrase.exists_field {d : Declaration} (h : DeclarationPhrase ts d) :
    ∀ f ∈ d.fields, ∃ us, us <:+: ts ∧ FieldPhrase us f := by
  intro f hf
  obtain ⟨_, _, body⟩ := h
  obtain ⟨us, hus, hp⟩ := body.exists_field f hf
  exact ⟨us, hus.trans (List.suffix_append _ _).isInfix, hp⟩

theorem DeclarationPhrase.exists_attribute {d : Declaration} (h : DeclarationPhrase ts d) :
    ∀ a ∈ d.attributes, ∃ us, us <:+: ts ∧ AttributePhrase us a := by
  intro a ha
  obtain @⟨_, _, _, attributes, _, _, list, _, body⟩ := h
  have hmem : a ∈ attributes := by cases body <;> exact ha
  obtain ⟨us, hus, hp⟩ := list.exists_phrase a hmem
  rw [List.append_assoc]
  exact ⟨us, hus.trans (List.prefix_append _ _).isInfix, hp⟩

end Fields

end Grammar

open Grammar

/-- Some tokens of the text that stand together are a phrase for it. -/
def OccursIn {α : Type} (Phrase : List Token → α → Prop) (a : α) (source : String) : Prop :=
  ∃ tokens ts, Splits {} source.toList tokens ∧ ts <:+: tokens ∧ Phrase ts a

section Sources
variable {source : String} {ds : List Declaration} {d : Declaration} {f : Field}

theorem OccursIn.part {α β : Type} {P : List Token → α → Prop} {Q : List Token → β → Prop} {a : α}
    {b : β} (h : OccursIn P a source) (hb : ∀ ts, P ts a → ∃ us, us <:+: ts ∧ Q us b) :
    OccursIn Q b source := by
  obtain ⟨tokens, ts, hsplits, hts, ha⟩ := h
  obtain ⟨us, hus, hq⟩ := hb ts ha
  exact ⟨tokens, us, hsplits, hus.trans hts, hq⟩

theorem declaration_occurs (h : parse source = .ok ds) (hd : d ∈ ds) :
    OccursIn DeclarationPhrase d source := by
  obtain ⟨tokens, hsplits, hstart⟩ := parse_eq_ok_iff.mp h
  obtain ⟨ts, hts, hp⟩ := Many.exists_phrase hstart d hd
  exact ⟨tokens, ts, hsplits, hts, hp⟩

theorem field_occurs (h : parse source = .ok ds) (hd : d ∈ ds) (hf : f ∈ d.fields) :
    OccursIn FieldPhrase f source :=
  (declaration_occurs h hd).part fun _ hp => hp.exists_field f hf

theorem type_occurs (h : parse source = .ok ds) (hd : d ∈ ds) (hf : f ∈ d.fields) :
    OccursIn TypePhrase f.type source :=
  (field_occurs h hd hf).part fun _ hp => hp.exists_type

end Sources

end RecordBuilders.Syntax
