import RecordBuilders.Proofs.Target.SourceHints

/-! What of a type its hint is made from. References, lifetimes and constants in brackets, the
segments in front of the last one of a path and transparent wrappers leave no trace in a hint. A type
sheds them one by one, at any depth and in any order. What is left of it in the end is its erasure,
and types of the same erasure have the same hint. -/
namespace RecordBuilders
open Syntax Target Grammar

/-- The type stands in some source text, be it as the type of a field or as a part of one. -/
def Syntax.TypeExpr.FromSource (t : TypeExpr) : Prop := ∃ source, OccursIn TypePhrase t source

theorem Syntax.Declaration.FromSource.type_fromSource {d : Declaration} {f : Field}
    (h : d.FromSource) (hf : f ∈ d.fields) : f.type.FromSource := by
  obtain ⟨source, _, hp, hd⟩ := h
  exact ⟨source, type_occurs hp hd hf⟩

/-- Lifetimes and constants are no types. -/
def Syntax.GenericArg.type? : GenericArg → Option TypeExpr
  | .type t => some t
  | .lifetime _ => none
  | .const _ => none

namespace Target

/-- A name with types in its brackets. A transparent name gives way to its only argument. -/
def appliedType (map : TypeMap) (name : String) : List TypeExpr → TypeExpr
  | [type] => if map.target name = "" then type else .path [.applied name [.type type]]
  | types => .path [.applied name (types.map .type)]

mutual

/-- The type without all that leaves no trace in its hint, at every depth. -/
def erase (map : TypeMap) : TypeExpr → TypeExpr
  | .path segments => eraseLast map segments
  | .reference _ _ referent => erase map referent
  | .tuple elements => .tuple (eraseAll map elements)
  | .array element length => .array (erase map element) length
  | .absent => .absent

def eraseAll (map : TypeMap) : List TypeExpr → List TypeExpr
  | [] => []
  | type :: types => erase map type :: eraseAll map types

def eraseLast (map : TypeMap) : List Segment → TypeExpr
  | [] => .path []
  | [segment] => eraseSegment map segment
  | _ :: segments => eraseLast map segments

def eraseSegment (map : TypeMap) : Segment → TypeExpr
  | .plain name => .path [.plain name]
  | .applied name arguments => appliedType map name (eraseArguments map arguments)

/-- What is left of the arguments that are types. -/
def eraseArguments (map : TypeMap) : List GenericArg → List TypeExpr
  | [] => []
  | .type type :: arguments => erase map type :: eraseArguments map arguments
  | .lifetime _ :: arguments => eraseArguments map arguments
  | .const _ :: arguments => eraseArguments map arguments

end

section Equations
variable (map : TypeMap)

theorem eraseAll_eq (types : List TypeExpr) : eraseAll map types = types.map (erase map) := by
  induction types with
  | nil => rfl
  | cons type types ih => rw [eraseAll, ih, List.map_cons]

theorem eraseArguments_eq (arguments : List GenericArg) :
    eraseArguments map arguments = (arguments.filterMap GenericArg.type?).map (erase map) := by
  induction arguments with
  | nil => rfl
  | cons argument arguments ih =>
    cases argument <;> simp [eraseArguments, GenericArg.type?, List.filterMap_cons, ih]

theorem eraseLast_cons (first : Segment) {segments : List Segment} (h : segments ≠ []) :
    eraseLast map (first :: segments) = eraseLast map segments := by
  rw [eraseLast]
  exact fun hnil => h hnil

/-- Where a segment stands in a path, what is left of it is all that counts. -/
theorem eraseLast_congr {s s' : Segment} (h : eraseSegment map s = eraseSegment map s')
    (before behind : List Segment) :
    eraseLast map (before ++ s :: behind) = eraseLast map (before ++ s' :: behind) := by
  induction before with
  | nil =>
    cases behind with
    | nil => simpa [eraseLast] using h
    | cons next behind =>
      simp only [List.nil_append]
      rw [eraseLast_cons map s (by simp), eraseLast_cons map s' (by simp)]
  | cons first before ih =>
    simp only [List.cons_append]
    rw [eraseLast_cons map first (by simp), eraseLast_cons map first (by simp), ih]

end Equations

section Hints
variable (map : TypeMap)

theorem argumentHints_type (types : List TypeExpr) :
    argumentHints map (types.map .type) = hints map types := by
  induction types with
  | nil => rfl
  | cons type types ih => rw [List.map_cons, argumentHints, hints, ih]

theorem lastHint_cons (first : Segment) {segments : List Segment} (h : segments ≠ []) :
    lastHint map (first :: segments) = lastHint map segments := by
  rw [lastHint]
  exact fun hnil => h hnil

/-- A transparent name gives way in the type as it does in the hint. -/
theorem hint_appliedType (name : String) (types : List TypeExpr) :
    hint map (appliedType map name types) = do
      return applyHint map name (← hints map types) := by
  have happlied : hint map (.path [.applied name (types.map .type)]) = do
      return applyHint map name (← hints map types) := by
    rw [hint, lastHint, segmentHint, argumentHints_type]
  unfold appliedType
  split
  · next type =>
    split
    · next ht =>
      rw [hints, hints]
      cases hint map type with
      | error fault => rfl
      | ok text =>
        have hempty : (map.target name).isEmpty = true := String.isEmpty_iff.mpr ht
        have hgives : applyHint map name [text] = text := by simp [applyHint, hempty]
        exact congrArg Except.ok hgives.symm
    · exact happlied
  · exact happlied

mutual

/-- What a type sheds leaves no trace in its hint, nor in what keeps it from having one. -/
theorem hint_erase : ∀ t, hint map (erase map t) = hint map t
  | .path segments => by rw [erase, hint, hint_eraseLast segments]
  | .reference _ _ referent => by rw [erase, hint, hint_erase referent]
  | .tuple elements => by rw [erase, hint, hint, hints_eraseAll elements]
  | .array element _ => by rw [erase, hint, hint, hint_erase element]
  | .absent => by rw [erase]

theorem hints_eraseAll : ∀ types, hints map (eraseAll map types) = hints map types
  | [] => by rw [eraseAll]
  | type :: types => by rw [eraseAll, hints, hints, hint_erase type, hints_eraseAll types]

theorem hint_eraseLast : ∀ segments, hint map (eraseLast map segments) = lastHint map segments
  | [] => by rw [eraseLast, hint]
  | [segment] => by rw [eraseLast, lastHint, hint_eraseSegment segment]
  | first :: next :: segments => by
    rw [eraseLast_cons map first (by simp), lastHint_cons map first (by simp),
      hint_eraseLast (next :: segments)]

theorem hint_eraseSegment : ∀ s, hint map (eraseSegment map s) = segmentHint map s
  | .plain name => by rw [eraseSegment, hint, lastHint]
  | .applied name arguments => by
    rw [eraseSegment, hint_appliedType, hints_eraseArguments arguments, segmentHint]

theorem hints_eraseArguments :
    ∀ arguments, hints map (eraseArguments map arguments) = argumentHints map arguments
  | [] => by rw [eraseArguments, hints, argumentHints]
  | .type type :: arguments => by
    rw [eraseArguments, hints, argumentHints, hint_erase type, hints_eraseArguments arguments]
  | .lifetime _ :: arguments => by
    rw [eraseArguments, argumentHints, hints_eraseArguments arguments]
  | .const _ :: arguments => by
    rw [eraseArguments, argumentHints, hints_eraseArguments arguments]

end

end Hints

/-- The type sheds one thing that leaves no trace in its hint: a reference or its lifetime, a segment
in front of others, a transparent wrapper, or an argument that is not a type. A part of a type can
shed it where it stands. -/
inductive Sheds (map : TypeMap) : TypeExpr → TypeExpr → Prop where
  | reference {lifetime : Option String} {mutable : Bool} {referent : TypeExpr} :
      Sheds map (.reference lifetime mutable referent) referent
  | lifetime {name : String} {mutable : Bool} {referent : TypeExpr} :
      Sheds map (.reference (some name) mutable referent) (.reference none mutable referent)
  | qualifier {first next : Segment} {others : List Segment} :
      Sheds map (.path (first :: next :: others)) (.path (next :: others))
  | wrapper {name : String} {arguments : List GenericArg} {inner : TypeExpr}
      (transparent : map.target name = "")
      (only : arguments.filterMap GenericArg.type? = [inner]) :
      Sheds map (.path [.applied name arguments]) inner
  | argument {name : String} {a : GenericArg} {as bs : List GenericArg}
      (before behind : List Segment) (untyped : a.type? = none) :
      Sheds map (.path (before ++ .applied name (as ++ a :: bs) :: behind))
        (.path (before ++ .applied name (as ++ bs) :: behind))
  | inReference {lifetime : Option String} {mutable : Bool} {t u : TypeExpr}
      (inner : Sheds map t u) :
      Sheds map (.reference lifetime mutable t) (.reference lifetime mutable u)
  | inTuple {ts us : List TypeExpr} {t u : TypeExpr} (inner : Sheds map t u) :
      Sheds map (.tuple (ts ++ t :: us)) (.tuple (ts ++ u :: us))
  | inArray {length : String} {t u : TypeExpr} (inner : Sheds map t u) :
      Sheds map (.array t length) (.array u length)
  | inArgument {name : String} {as bs : List GenericArg} {t u : TypeExpr}
      (before behind : List Segment) (inner : Sheds map t u) :
      Sheds map (.path (before ++ .applied name (as ++ .type t :: bs) :: behind))
        (.path (before ++ .applied name (as ++ .type u :: bs) :: behind))

/-- The type becomes the other one when it sheds one thing after the other. -/
abbrev ShedsTo (map : TypeMap) : TypeExpr → TypeExpr → Prop := Relation.ReflTransGen (Sheds map)

/-- What is left of a type when there is nothing more to be shed. -/
structure LeftOf (map : TypeMap) (t u : TypeExpr) : Prop where
  shed : ShedsTo map t u
  bare : ∀ v, ¬Sheds map u v

section Sheds
variable {map : TypeMap} {t u : TypeExpr}

/-- One step does not change what is left in the end. -/
theorem Sheds.erase_eq (h : Sheds map t u) : erase map u = erase map t := by
  induction h with
  | reference => rw [erase]
  | lifetime => rw [erase, erase]
  | @qualifier first next others =>
    rw [erase, erase, eraseLast_cons map first (by simp)]
  | wrapper transparent only =>
    rw [erase, eraseLast, eraseSegment, eraseArguments_eq, only]
    simp [appliedType, transparent]
  | argument before behind untyped =>
    rw [erase, erase]
    refine eraseLast_congr map ?_ before behind
    simp [eraseSegment, eraseArguments_eq, List.filterMap_cons_none untyped]
  | inReference _ ih => rw [erase, erase, ih]
  | inTuple _ ih => simp [erase, eraseAll_eq, ih]
  | inArray _ ih => rw [erase, erase, ih]
  | inArgument before behind _ ih =>
    rw [erase, erase]
    refine eraseLast_congr map ?_ before behind
    simp [eraseSegment, eraseArguments_eq, GenericArg.type?, ih]

theorem ShedsTo.erase_eq (h : ShedsTo map t u) : erase map u = erase map t := by
  induction h with
  | refl => rfl
  | tail _ hstep ih => exact hstep.erase_eq.trans ih

theorem sizeOf_remove_lt {α : Type} [SizeOf α] (x : α) (xs ys : List α) :
    sizeOf (xs ++ ys) < sizeOf (xs ++ x :: ys) := by
  induction xs with
  | nil => simp
  | cons z xs ih => simpa using ih

theorem sizeOf_replace_lt {α : Type} [SizeOf α] {x y : α} (h : sizeOf y < sizeOf x)
    (xs ys : List α) : sizeOf (xs ++ y :: ys) < sizeOf (xs ++ x :: ys) := by
  induction xs with
  | nil => simpa using h
  | cons z xs ih => simpa using ih

/-- A type becomes smaller whatever it sheds, so that shedding comes to an end. -/
theorem Sheds.sizeOf_lt (h : Sheds map t u) : sizeOf u < sizeOf t := by
  induction h with
  | reference => simp
  | @lifetime name mutable referent =>
    have hname : 0 < sizeOf name := by
      cases name
      simp
    simp only [TypeExpr.reference.sizeOf_spec, Option.some.sizeOf_spec, Option.none.sizeOf_spec]
    omega
  | qualifier => simp
  | @wrapper name arguments inner _ only =>
    have hinner : inner ∈ arguments.filterMap GenericArg.type? := by simp [only]
    obtain ⟨argument, hmem, htype⟩ := List.mem_filterMap.mp hinner
    have hlt := List.sizeOf_lt_of_mem hmem
    cases argument with
    | type type =>
      cases htype
      simp only [GenericArg.type.sizeOf_spec] at hlt
      simp only [TypeExpr.path.sizeOf_spec, List.cons.sizeOf_spec, Segment.applied.sizeOf_spec]
      omega
    | lifetime name => cases htype
    | const value => cases htype
  | @argument name a as bs before behind _ =>
    have hsegment : sizeOf (Segment.applied name (as ++ bs)) <
        sizeOf (Segment.applied name (as ++ a :: bs)) := by
      simpa using sizeOf_remove_lt a as bs
    simpa using sizeOf_replace_lt hsegment before behind
  | inReference _ ih => simpa using ih
  | @inTuple ts us t u _ ih => simpa using sizeOf_replace_lt ih ts us
  | inArray _ ih => simpa using ih
  | @inArgument name as bs t u before behind _ ih =>
    have hargument : sizeOf (GenericArg.type u) < sizeOf (GenericArg.type t) := by simpa using ih
    have hsegment : sizeOf (Segment.applied name (as ++ .type u :: bs)) <
        sizeOf (Segment.applied name (as ++ .type t :: bs)) := by
      simpa using sizeOf_replace_lt hargument as bs
    simpa using sizeOf_replace_lt hsegment before behind

/-- What a part can shed it can shed where it stands. -/
theorem ShedsTo.within {place : TypeExpr → TypeExpr} (h : ShedsTo map t u)
    (hplace : ∀ t u, Sheds map t u → Sheds map (place t) (place u)) :
    ShedsTo map (place t) (place u) := Relation.ReflTransGen.lift place hplace t u h

theorem ShedsTo.sizeOf_le (h : ShedsTo map t u) : sizeOf u ≤ sizeOf t := by
  induction h with
  | refl => exact Nat.le_refl _
  | tail _ hstep ih => exact Nat.le_trans (Nat.le_of_lt hstep.sizeOf_lt) ih

end Sheds

section Reached
variable (map : TypeMap)

theorem shedsTo_appliedType (name : String) (types : List TypeExpr) :
    ShedsTo map (.path [.applied name (types.map .type)]) (appliedType map name types) := by
  unfold appliedType
  split
  · next type =>
    split
    · next ht => exact .single (.wrapper ht rfl)
    · exact .refl
  · exact .refl

mutual

/-- A type can shed all that its erasure is without. -/
theorem shedsTo_erase : ∀ t, ShedsTo map t (erase map t)
  | .path segments => by
    rw [erase]
    exact shedsTo_eraseLast segments
  | .reference _ _ referent => by
    rw [erase]
    exact .head .reference (shedsTo_erase referent)
  | .tuple elements => by
    rw [erase]
    exact shedsTo_eraseAll [] elements
  | .array element length => by
    rw [erase]
    exact (shedsTo_erase element).within fun _ _ => .inArray
  | .absent => by
    rw [erase]

-- The elements are taken from left to right, and so are the arguments below. Those in front have
-- shed what they can.
theorem shedsTo_eraseAll : ∀ done types,
    ShedsTo map (.tuple (done ++ types)) (.tuple (done ++ eraseAll map types))
  | _, [] => .refl
  | done, type :: types => by
    have hfirst : ShedsTo map (.tuple (done ++ type :: types))
        (.tuple (done ++ erase map type :: types)) :=
      (shedsTo_erase type).within fun _ _ => .inTuple
    have hothers := shedsTo_eraseAll (done ++ [erase map type]) types
    rw [List.append_assoc, List.append_assoc] at hothers
    exact hfirst.trans hothers

theorem shedsTo_eraseLast : ∀ segments, ShedsTo map (.path segments) (eraseLast map segments)
  | [] => .refl
  | [segment] => shedsTo_eraseSegment segment
  | first :: next :: segments => by
    rw [eraseLast_cons map first (by simp)]
    exact .head .qualifier (shedsTo_eraseLast (next :: segments))

theorem shedsTo_eraseSegment : ∀ s, ShedsTo map (.path [s]) (eraseSegment map s)
  | .plain _ => .refl
  | .applied name arguments =>
    (shedsTo_eraseArguments name [] arguments).trans (shedsTo_appliedType map name _)

theorem shedsTo_eraseArguments : ∀ name done arguments,
    ShedsTo map (.path [.applied name (done ++ arguments)])
      (.path [.applied name (done ++ (eraseArguments map arguments).map .type)])
  | _, _, [] => .refl
  | name, done, .type type :: arguments => by
    have hfirst : ShedsTo map (.path [.applied name (done ++ .type type :: arguments)])
        (.path [.applied name (done ++ .type (erase map type) :: arguments)]) :=
      (shedsTo_erase type).within fun _ _ => .inArgument [] []
    have hothers := shedsTo_eraseArguments name (done ++ [.type (erase map type)]) arguments
    rw [List.append_assoc, List.append_assoc] at hothers
    exact hfirst.trans hothers
  | name, done, .lifetime _ :: arguments =>
    .head (.argument [] [] rfl) (shedsTo_eraseArguments name done arguments)
  | name, done, .const _ :: arguments =>
    .head (.argument [] [] rfl) (shedsTo_eraseArguments name done arguments)

end

/-- There is nothing left to be shed by an erasure. -/
theorem not_sheds_erase (t u : TypeExpr) : ¬Sheds map (erase map t) u := by
  intro h
  -- Shedding goes on to the erasure of `u`, which cannot be smaller than `u` is already.
  have hsame : erase map u = erase map t :=
    h.erase_eq.trans (shedsTo_erase map t).erase_eq
  have hle : sizeOf (erase map u) ≤ sizeOf u := (shedsTo_erase map u).sizeOf_le
  have hlt : sizeOf u < sizeOf (erase map t) := h.sizeOf_lt
  rw [hsame] at hle
  omega

end Reached

/-- The erasure is all that can be left of a type, in whatever order it sheds what it can. -/
theorem leftOf_iff {map : TypeMap} {t u : TypeExpr} : LeftOf map t u ↔ u = erase map t := by
  constructor
  · intro h
    rw [← h.shed.erase_eq]
    obtain hsame | ⟨v, hv, _⟩ := (shedsTo_erase map u).cases_head
    · exact hsame
    · exact absurd hv (h.bare v)
  · rintro rfl
    exact ⟨shedsTo_erase map t, not_sheds_erase map t⟩

/-- What types of the same erasure differ in are things that leave no trace. -/
theorem eqvGen_sheds_iff {map : TypeMap} {t u : TypeExpr} :
    Relation.EqvGen (Sheds map) t u ↔ erase map u = erase map t := by
  constructor
  · intro h
    induction h with
    | rel t u h => exact h.erase_eq
    | refl t => rfl
    | symm t u _ ih => exact ih.symm
    | trans t u v _ _ ih ih' => exact ih'.trans ih
  · intro h
    have ht := Relation.EqvGen.reflTransGen_le_eqvGen _ _ _ (shedsTo_erase map t)
    have hu := Relation.EqvGen.reflTransGen_le_eqvGen _ _ _ (shedsTo_erase map u)
    rw [h] at hu
    exact ht.trans _ _ _ (hu.symm _ _)

/-- A type from a source text has the hint of its erasure, whatever the type map. The erasure is what
is left of the type when all that can be shed is shed. Types have the same hint if they have the same
erasure, and so they do if they become each other by things that are shed or added, at any depth. -/
theorem hint_by_erasure (map : TypeMap) {t : TypeExpr} (ht : t.FromSource) :
    (∃ text, hint map t = .ok text ∧ hint map (erase map t) = .ok text) ∧
      (∀ u, LeftOf map t u ↔ u = erase map t) ∧
      (∀ u, erase map u = erase map t → hint map u = hint map t) ∧
      ∀ u, Relation.EqvGen (Sheds map) t u → hint map u = hint map t := by
  have hsame (u : TypeExpr) (h : erase map u = erase map t) : hint map u = hint map t := by
    rw [← hint_erase map u, h, hint_erase map t]
  obtain ⟨source, hoccurs⟩ := ht
  obtain ⟨text, htext⟩ := exists_hint_of_written map (written_of_occurs hoccurs)
  refine ⟨⟨text, htext, ?_⟩, fun u => leftOf_iff, hsame, fun u h => ?_⟩
  · rw [hint_erase, htext]
  · exact hsame u (eqvGen_sheds_iff.mp h)

/-- Within a transparent wrapper a reference to a path with a qualifier, of whose arguments one is a
type: a transparent wrapper again, around a type that loses all its arguments. -/
theorem hint_by_erasure_nested : ∃ t : TypeExpr, t.FromSource ∧
    t.text = "Box<&'a mut borrow::Cow<'a, Rc<D<'a>>, 3>>" ∧
      (erase .default t).text = "Cow<D<>>" ∧ hint .default t = .ok "Cow[D]" ∧
        ∀ u, erase .default u = erase .default t → hint .default u = .ok "Cow[D]" := by
  have hparse : parse "struct S \x7b f: Box<&'a mut borrow::Cow<'a, Rc<D<'a>>, 3>> \x7d" = .ok [{
      name := "S"
      fields := [{
        name := "f"
        type := .path [.applied "Box" [.type (.reference (some "'a") true (.path [.plain "borrow",
          .applied "Cow" [.lifetime "'a", .type (.path [.applied "Rc" [
            .type (.path [.applied "D" [.lifetime "'a"]])]]), .const "3"]]))]]
        location := some ⟨1, 12⟩ }]
      location := some ⟨1, 1⟩ }] := by cbv
  have hsource := Declaration.FromSource.type_fromSource ⟨_, _, hparse, List.mem_cons_self⟩
    List.mem_cons_self
  obtain ⟨⟨text, htext, herasure⟩, _, hsame, _⟩ := hint_by_erasure .default hsource
  have heq : text = "Cow[D]" := Except.ok.inj (herasure.symm.trans (by cbv))
  rw [heq] at htext
  exact ⟨_, hsource, by cbv, by cbv, htext, fun u hu => (hsame u hu).trans htext⟩

end Target
end RecordBuilders
