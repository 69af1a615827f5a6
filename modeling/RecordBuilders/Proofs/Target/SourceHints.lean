import RecordBuilders.Proofs.Syntax.WrittenTypes
import RecordBuilders.Proofs.Target.SourceModule
import RecordBuilders.Proofs.Text.Pieces

/-! Type hints of fields that come from a source text. There is always one, and what each step in its
making keeps holds of it. So its characters are those of target names and words, besides brackets,
commas, parentheses and blanks. What keeps a declaration from a source text from its classes are
problems that can be reported. -/
namespace RecordBuilders
open Syntax Target Text

theorem Syntax.Declaration.FromSource.written {d : Declaration} (h : d.FromSource) :
    ∀ f ∈ d.fields, f.type.Written := by
  obtain ⟨_, _, hp, hd⟩ := h
  exact written_of_parse hp d hd

theorem Syntax.TypeExpr.Written.of_unwrap? {t inner : TypeExpr} {wrapper : String} (ht : t.Written)
    (h : t.unwrap? wrapper = some inner) : inner.Written := by
  obtain ⟨others, rfl⟩ := eq_of_unwrap? h
  cases ht with
  | path _ all =>
    cases all _ List.mem_cons_self with
    | applied _ arguments =>
      cases arguments _ List.mem_cons_self with
      | type type => exact type

/-- The types of a member are those of its field, or parts of them. -/
theorem Config.written_of_classify {c : Config} {f : Field} {m : Member} (hf : f.type.Written)
    (h : c.classify f = .ok m) : m.declared.Written ∧ m.valueType.Written := by
  obtain ⟨name, role, _, hrole, rfl⟩ := classify_eq_ok_iff.mp h
  refine ⟨hf, ?_⟩
  cases hrole with
  | required _ _ => exact hf
  | optional _ wrapped => exact hf.of_unwrap? wrapped
  | repeatable _ _ wrapped => exact hf.of_unwrap? wrapped

theorem Syntax.Declaration.FromSource.members_written {c : Config} {d : Declaration}
    {members : List Member} (hd : d.FromSource) (h : c.members d = .ok members) :
    ∀ m ∈ members, m.declared.Written ∧ m.valueType.Written := by
  intro m hm
  obtain ⟨f, hf, hc⟩ := Config.exists_classify_of_members h m hm
  exact Config.written_of_classify (hd.written f hf) hc

namespace Target

mutual

/-- The names of a type that its hint is made from: those of the last segment of a path, and of the
types in its brackets. -/
def hintNames : TypeExpr → List String
  | .path segments => lastHintNames segments
  | .reference _ _ referent => hintNames referent
  | .tuple elements => hintsNames elements
  | .array element _ => hintNames element
  | .absent => []

def hintsNames : List TypeExpr → List String
  | [] => []
  | type :: types => hintNames type ++ hintsNames types

def lastHintNames : List Segment → List String
  | [] => []
  | [segment] => segmentHintNames segment
  | _ :: segments => lastHintNames segments

def segmentHintNames : Segment → List String
  | .plain name => [name]
  | .applied name arguments => name :: argumentHintNames arguments

def argumentHintNames : List GenericArg → List String
  | [] => []
  | .type type :: arguments => hintNames type ++ argumentHintNames arguments
  | .lifetime _ :: arguments => argumentHintNames arguments
  | .const _ :: arguments => argumentHintNames arguments

end

/-- What stands in front of the brackets of tuples and arrays. -/
def sequenceHeads : List String := ["tuple", "list"]

/-- A relation of the names in types to the texts of their hints which is kept by each way to put a
hint together. -/
structure HintInvariant (map : TypeMap) (R : List String → List String → Prop) : Prop where
  nil : R [] []
  append {names names' texts texts' : List String} (first : R names texts)
    (rest : R names' texts') : R (names ++ names') (texts ++ texts')
  applied {name : String} {names texts : List String} (word : IsWord name) (inner : R names texts) :
    R (name :: names) [applyHint map name texts]
  bracketed {head : String} {names texts : List String} (known : head ∈ sequenceHeads)
    (nonempty : texts ≠ []) (inner : R names texts) :
    R names [head ++ "[" ++ ", ".intercalate texts ++ "]"]
  unit {names : List String} (inner : R names []) : R names ["tuple[()]"]

namespace HintInvariant
variable {map : TypeMap} {R : List String → List String → Prop}

mutual

/-- A type as it can be written has a hint, which its names are related to. -/
theorem exists_hint (h : HintInvariant map R) :
    ∀ {t : TypeExpr}, t.Written → ∃ s, hint map t = .ok s ∧ R (hintNames t) [s]
  | .path segments, .path nonempty all => by
    rw [hint, hintNames]
    exact exists_lastHint h nonempty all
  | .reference _ _ referent, .reference type => by
    rw [hint, hintNames]
    exact exists_hint h type
  | .tuple elements, .tuple all => by
    obtain ⟨texts, ht, hr⟩ := exists_hints h all
    rw [hint, hintNames, ht]
    refine ⟨_, rfl, ?_⟩
    split
    · next he =>
      rw [List.isEmpty_iff.mp he] at hr
      exact h.unit hr
    · next he =>
      have htuple : R (hintsNames elements) ["tuple" ++ "[" ++ ", ".intercalate texts ++ "]"] :=
        h.bracketed (by decide) (by simpa using he) hr
      exact htuple
  | .array element _, .array type => by
    obtain ⟨s, hs, hr⟩ := exists_hint h type
    rw [hint, hintNames, hs]
    have hlist : R (hintNames element) ["list" ++ "[" ++ ", ".intercalate [s] ++ "]"] :=
      h.bracketed (by decide) (by simp) hr
    exact ⟨_, rfl, hlist⟩

theorem exists_hints (h : HintInvariant map R) : ∀ {ts : List TypeExpr}, (∀ t ∈ ts, t.Written) →
    ∃ texts, hints map ts = .ok texts ∧ R (hintsNames ts) texts
  | [], _ => ⟨[], rfl, h.nil⟩
  | t :: ts, hall => by
    obtain ⟨ht, hts⟩ := List.forall_mem_cons.mp hall
    obtain ⟨s, hs, hr⟩ := exists_hint h ht
    obtain ⟨texts, htexts, hrs⟩ := exists_hints h hts
    rw [hints, hintsNames, hs, htexts]
    exact ⟨s :: texts, rfl, h.append hr hrs⟩

theorem exists_lastHint (h : HintInvariant map R) : ∀ {segments : List Segment}, segments ≠ [] →
    (∀ s ∈ segments, s.Written) →
    ∃ s, lastHint map segments = .ok s ∧ R (lastHintNames segments) [s]
  | [segment], _, hall => by
    rw [lastHint, lastHintNames]
    exact exists_segmentHint h (hall segment List.mem_cons_self)
  | _ :: next :: segments, _, hall => by
    rw [lastHint, lastHintNames]
    · exact exists_lastHint h (by simp) fun s hs => hall s (List.mem_cons_of_mem _ hs)
    · simp
    · simp

theorem exists_segmentHint (h : HintInvariant map R) : ∀ {s : Segment}, s.Written →
    ∃ text, segmentHint map s = .ok text ∧ R (segmentHintNames s) [text]
  | .plain name, .plain word => ⟨_, rfl, h.applied word h.nil⟩
  | .applied name arguments, .applied word all => by
    obtain ⟨texts, ht, hr⟩ := exists_argumentHints h all
    rw [segmentHint, segmentHintNames, ht]
    exact ⟨_, rfl, h.applied word hr⟩

theorem exists_argumentHints (h : HintInvariant map R) : ∀ {arguments : List GenericArg},
    (∀ a ∈ arguments, a.Written) →
    ∃ texts, argumentHints map arguments = .ok texts ∧ R (argumentHintNames arguments) texts
  | [], _ => ⟨[], rfl, h.nil⟩
  | .type t :: arguments, hall => by
    obtain ⟨⟨ht⟩, hrest⟩ := List.forall_mem_cons.mp hall
    obtain ⟨s, hs, hr⟩ := exists_hint h ht
    obtain ⟨texts, htexts, hrs⟩ := exists_argumentHints h hrest
    rw [argumentHints, argumentHintNames, hs, htexts]
    exact ⟨s :: texts, rfl, h.append hr hrs⟩
  | .lifetime _ :: arguments, hall => by
    rw [argumentHints, argumentHintNames]
    exact exists_argumentHints h (List.forall_mem_cons.mp hall).2
  | .const _ :: arguments, hall => by
    rw [argumentHints, argumentHintNames]
    exact exists_argumentHints h (List.forall_mem_cons.mp hall).2

end

end HintInvariant

/-- A property of characters that holds of all a hint can be made of. -/
structure HintChars (map : TypeMap) (Q : Char → Prop) : Prop where
  targets : ∀ entry ∈ map, ∀ c ∈ entry.2.toList, Q c
  words : ∀ c, isWordPart c = true → Q c
  marks : ∀ c ∈ "[], ()".toList, Q c

namespace HintChars
variable {map : TypeMap} {Q : Char → Prop}

theorem of_isWord (h : HintChars map Q) {name : String} (hw : IsWord name) : ∀ c ∈ name.toList, Q c :=
  fun c hc => h.words c (hw.parts c hc)

theorem of_literal (h : HintChars map Q) {s : String}
    (ht : s.toList.all (fun c => isWordPart c || "[], ()".toList.contains c) = true) :
    ∀ c ∈ s.toList, Q c := by
  intro c hc
  rcases Bool.or_eq_true_iff.mp (List.all_eq_true.mp ht c hc) with hw | hm
  · exact h.words c hw
  · exact h.marks c (List.contains_iff_mem.mp hm)

theorem of_target (h : HintChars map Q) {name : String} (hw : IsWord name) :
    ∀ c ∈ (map.target name).toList, Q c := by
  unfold TypeMap.target
  cases hl : map.lookup name with
  | none => exact h.of_isWord hw
  | some target =>
    obtain ⟨before, behind, rfl, _⟩ := List.lookup_eq_some_iff.mp hl
    exact h.targets (name, target) (by simp)

theorem of_bracketed (h : HintChars map Q) (head : String) (texts : List String)
    (hh : ∀ c ∈ head.toList, Q c) (ht : ∀ s ∈ texts, ∀ c ∈ s.toList, Q c) :
    ∀ c ∈ (head ++ "[" ++ ", ".intercalate texts ++ "]").toList, Q c := by
  intro c hc
  simp only [String.toList_append, List.mem_append] at hc
  rcases hc with ((hc | hc) | hc) | hc
  · exact hh c hc
  · exact h.of_literal (s := "[") (by decide) c hc
  · exact forall_mem_intercalate (h.of_literal (by decide)) ht c hc
  · exact h.of_literal (s := "]") (by decide) c hc

theorem of_applyHint (h : HintChars map Q) {name : String} {arguments : List String}
    (hw : IsWord name) (ha : ∀ s ∈ arguments, ∀ c ∈ s.toList, Q c) :
    ∀ c ∈ (applyHint map name arguments).toList, Q c := by
  have hhead : ∀ c ∈ (if (map.target name).isEmpty then name else map.target name).toList, Q c := by
    split
    · exact h.of_isWord hw
    · exact h.of_target hw
  unfold applyHint
  dsimp only
  split
  · exact ha _ (by simp)
  · split
    · exact hhead
    · exact h.of_bracketed _ _ hhead ha

theorem invariant (h : HintChars map Q) :
    HintInvariant map fun _ texts => ∀ s ∈ texts, ∀ c ∈ s.toList, Q c where
  nil := by simp
  append hchars hchars' := List.forall_mem_append.mpr ⟨hchars, hchars'⟩
  applied hw hchars := List.forall_mem_singleton.mpr (h.of_applyHint hw hchars)
  bracketed hhead _ hchars := by
    have hwords : ∀ head ∈ sequenceHeads, head.toList.all isWordPart = true := by decide
    have hq := List.all_eq_true.mp (hwords _ hhead)
    exact List.forall_mem_singleton.mpr (h.of_bracketed _ _ (fun c hc => h.words c (hq c hc)) hchars)
  unit _ := List.forall_mem_singleton.mpr (h.of_literal (by decide))

theorem exists_hint (h : HintChars map Q) {t : TypeExpr} (ht : t.Written) :
    ∃ s, hint map t = .ok s ∧ ∀ c ∈ s.toList, Q c := by
  obtain ⟨s, hs, hchars⟩ := h.invariant.exists_hint ht
  exact ⟨s, hs, List.forall_mem_singleton.mp hchars⟩

end HintChars

/-- Type hints do not fail on what source texts denote. -/
theorem exists_hint_of_written (map : TypeMap) {t : TypeExpr} (ht : t.Written) :
    ∃ s, hint map t = .ok s := by
  have h : HintChars map fun _ => True := ⟨by simp, by simp, by simp⟩
  obtain ⟨s, hs, _⟩ := h.exists_hint ht
  exact ⟨s, hs⟩

theorem exists_hintMembers {map : TypeMap} {members : List Member}
    (h : ∀ m ∈ members, m.declared.Written ∧ m.valueType.Written) :
    ∃ hinted, hintMembers map members = .ok hinted := by
  obtain ⟨declared, hd⟩ := exists_mapM fun m hm => exists_hint_of_written map (h m hm).1
  obtain ⟨values, hv⟩ := exists_mapM fun m hm => exists_hint_of_written map (h m hm).2
  rw [hintMembers, hd, hv]
  exact ⟨_, rfl⟩

/-- A declaration from a source text gets its classes, or its problems are reported. -/
theorem derive_ne_unhinted {c : Config} {file : Option String} {d : Declaration}
    (hd : d.FromSource) (fault : HintFault) : derive c file d ≠ .error (.unhinted fault) := by
  intro h
  unfold derive at h
  split at h
  · cases h
  · next members hm =>
    obtain ⟨hinted, hh⟩ := exists_hintMembers (hd.members_written hm)
    rw [classPair, hh] at h
    cases h

end Target
end RecordBuilders
