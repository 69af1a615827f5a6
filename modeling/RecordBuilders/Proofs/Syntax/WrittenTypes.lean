import RecordBuilders.Proofs.Syntax.Occurrence
import RecordBuilders.Proofs.Syntax.SourceNames

/-! The types of fields that were read from a source text: no part of them is missing, at any depth,
and words name their segments. -/
namespace RecordBuilders.Syntax
open Text Grammar

mutual

inductive TypeExpr.Written : TypeExpr → Prop where
  | path {segments : List Segment} (nonempty : segments ≠ [])
      (all : ∀ s ∈ segments, Segment.Written s) : TypeExpr.Written (.path segments)
  | reference {lifetime : Option String} {mutable : Bool} {referent : TypeExpr}
      (type : TypeExpr.Written referent) : TypeExpr.Written (.reference lifetime mutable referent)
  | tuple {elements : List TypeExpr} (all : ∀ t ∈ elements, TypeExpr.Written t) :
      TypeExpr.Written (.tuple elements)
  | array {element : TypeExpr} {length : String} (type : TypeExpr.Written element) :
      TypeExpr.Written (.array element length)

inductive Segment.Written : Segment → Prop where
  | plain {name : String} (word : IsWord name) : Segment.Written (.plain name)
  | applied {name : String} {arguments : List GenericArg} (word : IsWord name)
      (all : ∀ a ∈ arguments, GenericArg.Written a) : Segment.Written (.applied name arguments)

inductive GenericArg.Written : GenericArg → Prop where
  | type {t : TypeExpr} (type : TypeExpr.Written t) : GenericArg.Written (.type t)
  | lifetime {name : String} : GenericArg.Written (.lifetime name)
  | const {value : String} : GenericArg.Written (.const value)

end

/-- Words name whatever the tokens name. -/
def AllWords (ts : List Token) : Prop := ∀ t ∈ ts, t.lexeme.NamesWord

theorem AllWords.within {ts us : List Token} (h : AllWords us) (hi : ts <:+: us) : AllWords ts :=
  fun t ht => h t (hi.subset ht)

theorem written_of_typePhrase {ts : List Token} {t : TypeExpr} (h : TypePhrase ts t) :
    AllWords ts → t.Written := by
  refine TypePhrase.induct (M := fun ts t => AllWords ts → t.Written)
    (S := fun ts s => AllWords ts → s.Written) (A := fun ts a => AllWords ts → a.Written)
    ?path ?reference ?tuple ?array ?plain ?applied ?type ?lifetime ?const h
  case path =>
    intro ts us first others hfirst hothers hw
    refine .path (by simp) (List.forall_mem_cons.mpr ⟨?_, fun s hs => ?_⟩)
    · exact hfirst (hw.within (List.prefix_append _ _).isInfix)
    · obtain ⟨_, hvs, p, vs, rfl, hs⟩ := hothers.exists_phrase s hs
      have hvs := (List.suffix_cons _ vs).isInfix.trans hvs
      exact hs (hw.within (hvs.trans (List.suffix_append _ _).isInfix))
  case reference =>
    intro ls ms ts _ _ _ p _ _ htype hw
    exact .reference (htype (hw.within ⟨⟨.symbol .ampersand, p⟩ :: (ls ++ ms), [], by simp⟩))
  case tuple => exact fun ts elements types hw => .tuple (forall_items hw types.exists_phrase)
  case array =>
    intro ts _ length p q r s htype hw
    exact .array (htype (hw.within ⟨[_], _, rfl⟩))
  case plain => exact fun name p hw => .plain (hw _ List.mem_cons_self)
  case applied =>
    intro name ts arguments p list hw
    have hts := hw.within (List.suffix_cons _ ts).isInfix
    exact .applied (hw _ List.mem_cons_self) (forall_items hts list.exists_phrase)
  case type => exact fun ts t htype hw => .type (htype hw)
  case lifetime => exact fun name p _ => .lifetime
  case const => exact fun value p _ => .const

/-- Whatever the source text, the types in it are written out in words. -/
theorem written_of_occurs {source : String} {t : TypeExpr} (h : OccursIn TypePhrase t source) :
    t.Written := by
  obtain ⟨tokens, ts, hsplits, hts, htype⟩ := h
  have hw : AllWords (scanFrom {} source.toList).tokens := scanFrom_namesWord {} source.toList
  rw [splits_iff_scanFrom.mp hsplits] at hw
  exact written_of_typePhrase htype (hw.within hts)

theorem written_of_parse {source : String} {ds : List Declaration} (h : parse source = .ok ds) :
    ∀ d ∈ ds, ∀ f ∈ d.fields, f.type.Written :=
  fun _ hd _ hf => written_of_occurs (type_occurs h hd hf)

end RecordBuilders.Syntax
