import RecordBuilders.Builder.Action

/-! What a member holds after calls of its methods, and what one more call adds to that. -/
namespace RecordBuilders

/-- What an action makes of the value of a member; nothing if it fails. -/
def Action.result? (old value : Json) : Action → Option Json
  | .store => some value
  | .append =>
    match old with
    | .array items => some (.array (items ++ [value]))
    | _ => none
  | .replace => value.elements?.map .array

namespace Member

/-- The items that a call puts in the place of the sequence. A value that cannot be iterated over
puts nothing there. -/
def bulkItems? (f : Member) (fill : String × Json) : Option (List Json) :=
  if f.actions.lookup fill.1 = some .replace then fill.2.elements? else none

/-- The item that a call puts behind the sequence. -/
def appended? (f : Member) (fill : String × Json) : Option Json :=
  if f.actions.lookup fill.1 = some .append then some fill.2 else none

/-- The items of the last call that replaced the sequence, and those appended since. -/
def sequence (f : Member) (fills : List (String × Json)) : List Json :=
  (fills.reverse.findSome? f.bulkItems?).getD [] ++
    (fills.reverse.takeWhile fun fill => (f.bulkItems? fill).isNone).reverse.filterMap f.appended?

/-- What a member holds after calls of its methods: a sequence, or the last value. -/
def accumulated (f : Member) (fills : List (String × Json)) : Json :=
  match f.role with
  | .repeatable _ _ => .array (f.sequence fills)
  | _ => (fills.getLast?.map Prod.snd).getD .null

section Accumulation
variable {f : Member} {fills : List (String × Json)} {fill : String × Json}

theorem accumulated_nil (f : Member) : f.accumulated [] = f.initialValue := by
  cases hr : f.role with
  | required => simp [accumulated, initialValue, hr]
  | optional inner => simp [accumulated, initialValue, hr]
  | repeatable element method => simp [accumulated, initialValue, sequence, hr]

theorem sequence_snoc_bulk {items : List Json} (h : f.bulkItems? fill = some items) :
    f.sequence (fills ++ [fill]) = items := by
  simp [sequence, h]

theorem sequence_snoc_other (h : f.bulkItems? fill = none) :
    f.sequence (fills ++ [fill]) = f.sequence fills ++ (f.appended? fill).toList := by
  cases ha : f.appended? fill <;> simp [sequence, h, ha]

/-- A method has one meaning, and its name is one of the member's methods. -/
theorem lookup_actions {method : String} {action : Action} (h : (method, action) ∈ f.actions) :
    f.actions.lookup method = some action := by
  cases hr : f.role with
  | required => simp_all [actions]
  | optional inner => simp_all [actions]
  | repeatable element append =>
    simp only [actions, hr, List.mem_cons, Prod.mk.injEq] at h ⊢
    rcases h with ⟨rfl, rfl⟩ | h
    · rw [List.lookup_cons_self]
    · split at h
      · rename_i hb
        obtain ⟨rfl, rfl⟩ : method = f.name ∧ action = .replace := by simpa using h
        have hne : (f.name == append) = false := by
          simp only [hasBulkSetter, hr, bne_iff_ne, ne_eq] at hb
          simpa using fun he => hb he.symm
        rw [List.lookup_cons, hne, if_pos hb, List.lookup_cons_self]
      · cases h

/-- One more call is one more action on what there was. A failing call leaves it alone. -/
theorem accumulated_snoc {method : String} {action : Action} (h : (method, action) ∈ f.actions)
    (value : Json) :
    f.accumulated (fills ++ [(method, value)]) =
      (action.result? (f.accumulated fills) value).getD (f.accumulated fills) := by
  have hl := lookup_actions h
  cases hr : f.role with
  | required =>
    have ha : action = .store := by simp_all [actions]
    simp [accumulated, hr, ha, Action.result?]
  | optional inner =>
    have ha : action = .store := by simp_all [actions]
    simp [accumulated, hr, ha, Action.result?]
  | repeatable element append =>
    simp only [accumulated, hr]
    cases action with
    | store =>
      exfalso
      simp only [actions, hr, List.mem_cons, Prod.mk.injEq, reduceCtorEq, and_false, false_or] at h
      split at h <;> simp at h
    | append =>
      have hb : f.bulkItems? (method, value) = none := by simp [bulkItems?, hl]
      have ha : f.appended? (method, value) = some value := by simp [appended?, hl]
      simp [sequence_snoc_other hb, ha, Action.result?]
    | replace =>
      cases he : value.elements? with
      | some items =>
        have hb : f.bulkItems? (method, value) = some items := by simp [bulkItems?, hl, he]
        simp [sequence_snoc_bulk hb, Action.result?, he]
      | none =>
        have hb : f.bulkItems? (method, value) = none := by simp [bulkItems?, he]
        have ha : f.appended? (method, value) = none := by simp [appended?, hl]
        simp [sequence_snoc_other hb, ha, Action.result?, he]

end Accumulation
end Member

end RecordBuilders
