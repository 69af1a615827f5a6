import RecordBuilders.Proofs.Builder.Accumulation
import RecordBuilders.Proofs.Builder.Creation

/-! Histories of what users of a module do with it, and what a single use can change. -/
namespace RecordBuilders
open Target

/-- A record is asked for a builder, a method that was generated for a field is called on a builder,
or a builder is asked for its record. Builders are numbered in the order in which they appear. -/
inductive Use where
  | new (record : String)
  | fill (builder : Nat) (field method : String) (value : Json)
  | build (builder : Nat)

/-- The calls of a field's methods on one builder: which method, and with what. -/
def fills (builder : Nat) (field : String) (uses : List Use) : List (String × Json) :=
  uses.filterMap fun
    | .fill b f method value => if b = builder ∧ f = field then some (method, value) else none
    | _ => none

namespace Session

/-- A method is called by the attribute that its definition made. -/
def use (m : LoadedModule) (s : Session) : Use → Session × Reply
  | .new record => s.step m (.new record)
  | .fill index _ method value =>
    match s.products[index]? with
    | some (.builder b) => s.step m (.call index (b.classes.builderName method) value)
    | _ => s.step m (.call index method value)
  | .build index => s.step m (.build index)

/-- Only builders that there are can be used, and only by the methods of their fields. -/
def Offers (s : Session) : Use → Prop
  | .new _ => True
  | .fill index field method _ =>
    ∃ b, s.products[index]? = some (.builder b) ∧
      ∃ f ∈ b.classes.members, f.name = field ∧ method ∈ f.methods
  | .build index => ∃ b, s.products[index]? = some (.builder b)

end Session

/-- The uses lead from the beginning to the session. -/
inductive History (m : LoadedModule) : List Use → Session → Prop
  | start : History m [] {}
  | use {uses : List Use} {s : Session} {u : Use} (h : History m uses s) (ho : s.Offers u) :
    History m (uses ++ [u]) (s.use m u).1

section Fills
variable {builder : Nat} {field : String} {uses : List Use}

theorem fills_snoc_fill {b : Nat} {f method : String} {value : Json} :
    fills builder field (uses ++ [.fill b f method value]) =
      if b = builder ∧ f = field then fills builder field uses ++ [(method, value)]
      else fills builder field uses := by
  by_cases h : b = builder ∧ f = field
  · simp [fills, List.filterMap_append, h]
  · simp [fills, List.filterMap_append, h]

theorem fills_snoc_new {record : String} :
    fills builder field (uses ++ [.new record]) = fills builder field uses := by
  simp [fills, List.filterMap_append]

theorem fills_snoc_build {b : Nat} :
    fills builder field (uses ++ [.build b]) = fills builder field uses := by
  simp [fills, List.filterMap_append]

end Fills

section Frames
variable {m : LoadedModule} {s : Session} {b : Builder}

theorem Builder.act_classes {storage : String} {value : Json} {action : Action} {after : Builder}
    (h : b.act m storage value action = .ok after) : after.classes = b.classes := by
  cases action with
  | store =>
    cases h
    rfl
  | append =>
    obtain ⟨old, _, h⟩ := bind_eq_ok_iff.mp h
    split at h
    · cases h
      rfl
    · cases h
  | replace =>
    obtain ⟨items, _, h⟩ := bind_eq_ok_iff.mp h
    cases h
    rfl

theorem Builder.delete_classes {name : String} {after : Builder} (h : b.delete name = .ok after) :
    after.classes = b.classes := by
  unfold delete at h
  split at h
  · split at h
    · cases h
      rfl
    · cases h
  · cases h
  · cases h
  · cases h

theorem Builder.inherit_classes {name : String} {value : Json} {operation : InheritedOperation}
    {after : Builder} (h : b.inherit name value operation = .ok after) :
    after.classes = b.classes := by
  unfold inherit at h
  split at h
  · exact delete_classes h
  · cases h
  · split at h
    · cases h
    · cases h
      rfl

/-- No call makes another class of builder. -/
theorem Builder.call_classes {name : String} {value : Json} {answer : CallAnswer}
    (h : b.call m name value = .ok answer) : answer.builder.classes = b.classes := by
  obtain ⟨meaning, _, h⟩ := bind_eq_ok_iff.mp h
  split at h
  · cases h
  · cases h
  · obtain ⟨after, ha, h⟩ := bind_eq_ok_iff.mp h
    cases h
    exact act_classes ha
  · cases h
  · obtain ⟨after, ha, h⟩ := bind_eq_ok_iff.mp h
    cases h
    exact inherit_classes ha

theorem Session.afterCall_products {index : Nat} {name : String} {value : Json} :
    (s.afterCall index b name value).products = s.products := by
  unfold afterCall
  split <;> rfl

theorem Session.use_new {record : String} :
    (s.use m (.new record)).1 = match m.create record with
      | .ok product => { s with products := s.products ++ [product] }
      | .error _ => s := by
  unfold use step
  dsimp only
  split <;> rename_i h <;> simp only [h]

theorem Session.use_build_products {index : Nat} :
    (s.use m (.build index)).1.products = s.products := by
  unfold use step
  dsimp only
  split
  · rfl
  · rfl
  · split <;> rfl

/-- Calling a method of a builder. -/
theorem Session.use_fill {index : Nat} {field method : String} {value : Json}
    (hb : s.products[index]? = some (.builder b)) :
    s.use m (.fill index field method value) =
      match b.call m (b.classes.builderName method) value with
      | .error fault => (s, .failed fault)
      | .ok answer =>
        ((⟨s.products.set index (.builder answer.builder), s.records, s.sharedLists⟩ :
            Session).afterCall index answer.builder (b.classes.builderName method) value,
          shown answer.builder (.called answer.isReceiver)) := by
  cases hc : b.call m (b.classes.builderName method) value with
  | error fault => simp only [use, hb, step, hc]
  | ok answer => simp only [use, hb, step, hc]

theorem Session.use_fill_other {index : Nat} {field method : String} {value : Json}
    (hb : ∀ b, s.products[index]? ≠ some (.builder b)) :
    (s.use m (.fill index field method value)).1 = s := by
  cases hp : s.products[index]? with
  | none => simp [use, step, hp]
  | some product =>
    cases product with
    | builder b => exact absurd hp (hb b)
    | other className => simp [use, step, hp]

/-- What a use makes of the products: nothing changes, and a call has failed if there was one; or a
product is added; or a call has changed the builder that it was made on. -/
theorem Session.use_products (u : Use) :
    ((s.use m u).1.products = s.products ∧ ∀ index field method value b,
        u = .fill index field method value → s.products[index]? = some (.builder b) →
          ∃ fault, b.call m (b.classes.builderName method) value = .error fault) ∨
    (∃ record product, u = .new record ∧ m.create record = .ok product ∧
        (s.use m u).1.products = s.products ++ [product]) ∨
    (∃ index field method value b answer, u = .fill index field method value ∧
        s.products[index]? = some (.builder b) ∧
        b.call m (b.classes.builderName method) value = .ok answer ∧
        (s.use m u).1.products = s.products.set index (.builder answer.builder)) := by
  cases u with
  | new record =>
    rw [use_new]
    split
    · rename_i product hc
      exact Or.inr (Or.inl ⟨record, product, rfl, hc, rfl⟩)
    · exact Or.inl ⟨rfl, by simp⟩
  | build index => exact Or.inl ⟨use_build_products, by simp⟩
  | fill index field method value =>
    by_cases hb : ∃ b, s.products[index]? = some (.builder b)
    · obtain ⟨b, hb⟩ := hb
      rw [use_fill hb]
      split
      · rename_i fault hf
        refine Or.inl ⟨rfl, ?_⟩
        rintro _ _ _ _ other ⟨⟩ hother
        rw [hb] at hother
        cases hother
        exact ⟨fault, hf⟩
      · rename_i answer ha
        exact Or.inr (Or.inr
          ⟨index, field, method, value, b, answer, rfl, hb, ha, afterCall_products⟩)
    · rw [use_fill_other fun b h => hb ⟨b, h⟩]
      refine Or.inl ⟨rfl, ?_⟩
      rintro _ _ _ _ b ⟨⟩ h
      exact absurd ⟨b, h⟩ hb

/-- A builder keeps its number and its class. -/
theorem Session.use_keeps {u : Use} {i : Nat} (hb : s.products[i]? = some (.builder b)) :
    ∃ after, (s.use m u).1.products[i]? = some (.builder after) ∧ after.classes = b.classes := by
  obtain ⟨hlt, _⟩ := List.getElem?_eq_some_iff.mp hb
  rcases s.use_products (m := m) u with ⟨hu, _⟩ | ⟨_, product, _, _, hu⟩ |
      ⟨index, _, _, _, other, answer, _, ho, ha, hu⟩
  · exact ⟨b, by rw [hu, hb], rfl⟩
  · exact ⟨b, by rw [hu, List.getElem?_append_left hlt, hb], rfl⟩
  · rw [hu]
    by_cases hi : index = i
    · subst hi
      rw [ho] at hb
      cases hb
      exact ⟨answer.builder, List.getElem?_set_self hlt, Builder.call_classes ha⟩
    · exact ⟨b, by rw [List.getElem?_set_ne hi, hb], rfl⟩

/-- Where the builders after a use come from: they were there before, and at most a call of theirs
has failed; or a call has made them what they are; or they have just been created. -/
theorem Session.use_cases {u : Use} {i : Nat}
    (hb : (s.use m u).1.products[i]? = some (.builder b)) :
    (s.products[i]? = some (.builder b) ∧ ∀ field method value, u = .fill i field method value →
      ∃ fault, b.call m (b.classes.builderName method) value = .error fault) ∨
    (∃ before field method value answer, u = .fill i field method value ∧
      s.products[i]? = some (.builder before) ∧
      before.call m (before.classes.builderName method) value = .ok answer ∧ answer.builder = b) ∨
    (i = s.products.length ∧ ∃ record, u = .new record ∧ m.create record = .ok (.builder b)) := by
  rcases s.use_products (m := m) u with ⟨hu, hfail⟩ | ⟨record, product, rfl, hc, hu⟩ |
      ⟨index, field, method, value, before, answer, rfl, ho, ha, hu⟩
  · rw [hu] at hb
    exact Or.inl ⟨hb, fun field method value he => hfail i field method value b he hb⟩
  · rw [hu] at hb
    rcases Nat.lt_trichotomy i s.products.length with hi | hi | hi
    · rw [List.getElem?_append_left hi] at hb
      exact Or.inl ⟨hb, by simp⟩
    · rw [hi, List.getElem?_concat_length] at hb
      cases hb
      exact Or.inr (Or.inr ⟨hi, record, rfl, hc⟩)
    · rw [List.getElem?_eq_none (by rw [List.length_append]; exact hi)] at hb
      cases hb
  · rw [hu] at hb
    by_cases hi : index = i
    · subst hi
      obtain ⟨hlt, _⟩ := List.getElem?_eq_some_iff.mp ho
      rw [List.getElem?_set_self hlt] at hb
      cases hb
      exact Or.inr (Or.inl ⟨before, field, method, value, answer, rfl, ho, ha, rfl⟩)
    · rw [List.getElem?_set_ne hi] at hb
      refine Or.inl ⟨hb, ?_⟩
      rintro _ _ _ ⟨⟩
      exact absurd rfl hi

theorem Session.length_le_use {u : Use} : s.products.length ≤ (s.use m u).1.products.length := by
  rcases s.use_products (m := m) u with ⟨hu, _⟩ | ⟨_, _, _, _, hu⟩ |
      ⟨_, _, _, _, _, _, _, _, _, hu⟩
  · exact Nat.le_of_eq (by rw [hu])
  · rw [hu, List.length_append]
    exact Nat.le_add_right _ _
  · exact Nat.le_of_eq (by rw [hu, List.length_set])

end Frames

namespace History
variable {m : LoadedModule} {uses : List Use} {s : Session} {i : Nat} {b : Builder}

/-- All builders have been created by factories. -/
theorem creates (h : History m uses s) (hb : s.products[i]? = some (.builder b)) :
    m.Creates b.classes := by
  induction h generalizing b with
  | start => simp at hb
  | use _ _ ih =>
    rcases Session.use_cases hb with ⟨hp, _⟩ | ⟨before, _, _, _, answer, _, hp, ha, rfl⟩ |
        ⟨_, record, _, hc⟩
    · exact ih hp
    · rw [Builder.call_classes ha]
      exact ih hp
    · exact ⟨record, b, hc, rfl⟩

/-- Nothing has been called on a builder that there is not yet. -/
theorem fills_eq_nil (h : History m uses s) (hi : s.products.length ≤ i) (field : String) :
    fills i field uses = [] := by
  induction h with
  | start => rfl
  | @use uses s u _ ho ih =>
    have hbound : s.products.length ≤ i := Nat.le_trans Session.length_le_use hi
    cases u with
    | new record => rw [fills_snoc_new, ih hbound]
    | build index => rw [fills_snoc_build, ih hbound]
    | fill index f method value =>
      obtain ⟨other, ho, _⟩ := ho
      obtain ⟨hlt, _⟩ := List.getElem?_eq_some_iff.mp ho
      rw [fills_snoc_fill, if_neg (by omega), ih hbound]

/-- The last use of a history. -/
theorem of_snoc {u : Use} {t : Session} (h : History m (uses ++ [u]) t) :
    ∃ s, History m uses s ∧ s.Offers u ∧ t = (s.use m u).1 := by
  generalize he : uses ++ [u] = all at h
  cases h with
  | start => simp at he
  | use h ho =>
    obtain ⟨rfl, hu⟩ := List.append_inj' he rfl
    cases hu
    exact ⟨_, h, ho, rfl⟩

/-- The same uses lead to the same session. -/
theorem unique {t : Session} (h : History m uses s) (ht : History m uses t) : s = t := by
  induction h generalizing t with
  | start =>
    generalize he : ([] : List Use) = none at ht
    cases ht with
    | start => rfl
    | use => simp at he
  | use h ho ih =>
    obtain ⟨before, hb, _, rfl⟩ := ht.of_snoc
    rw [ih hb]

end History
end RecordBuilders
