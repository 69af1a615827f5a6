import RecordBuilders.Proofs.Syntax.Spelling

/-! The text of a type is read back as that type, if the type occurs in some source text. -/
namespace RecordBuilders.Syntax
open Text Grammar

theorem TypeExpr.texts_eq (ts : List TypeExpr) : TypeExpr.texts ts = ts.map TypeExpr.text := by
  induction ts with
  | nil => rfl
  | cons t ts ih => rw [TypeExpr.texts, ih, List.map_cons]

theorem Segment.texts_eq (ss : List Segment) : Segment.texts ss = ss.map Segment.text := by
  induction ss with
  | nil => rfl
  | cons s ss ih => rw [Segment.texts, ih, List.map_cons]

theorem GenericArg.texts_eq (as : List GenericArg) :
    GenericArg.texts as = as.map GenericArg.text := by
  induction as with
  | nil => rfl
  | cons a as ih => rw [GenericArg.texts, ih, List.map_cons]

/-- Only a tuple of one element has a comma of its own. -/
theorem TypeExpr.text_tuple {elements : List TypeExpr} (h : ∀ t, elements ≠ [t]) :
    (TypeExpr.tuple elements).text =
      "(" ++ ", ".intercalate (elements.map TypeExpr.text) ++ ")" := by
  rw [TypeExpr.text, texts_eq]
  exact h

theorem isEmpty_eq_false_of_genuine {name : String} (h : (Lexeme.lifetime name).Genuine) :
    name.isEmpty = false := by
  obtain ⟨c, cs, he, _⟩ := Lexer.start_of_terminal h
  refine Bool.eq_false_iff.mpr fun hempty => ?_
  simp [Lexeme.text, String.isEmpty_iff.mp hempty] at he

/-- What stands between the ampersand and the referent is read back, whatever follows. -/
theorem spells_referenceMarks {h : Char → Bool} {ds : List Char} {P : List Token → Prop}
    {ls ms : List Token} {lifetime : Option String} {mutable : Bool}
    (hl : OptionalLifetime ls lifetime) (hm : OptionalWord .mut ms mutable) (hg : AllGenuine ls)
    (hb : Spells h ds fun vs => ∀ ls ms, OptionalLifetime ls lifetime →
      OptionalWord .mut ms mutable → P (ls ++ ms ++ vs)) :
    Spells h ((referenceMarks lifetime mutable).toList ++ ds) P := by
  have hword : Spells h ((if mutable then "mut " else "").toList ++ ds) fun vs =>
      ∀ ls, OptionalLifetime ls lifetime → P (ls ++ vs) := by
    cases hm with
    | absent => exact hb.imp fun vs hvs ls hl => by simpa using hvs ls [] hl .absent
    | present =>
      refine .token (.keyword .mut) (Lexeme.genuine_keyword .mut) rfl (.blank (hb.imp ?_))
      exact fun vs hvs p ls hl => by simpa using hvs ls [_] hl .present
  rw [referenceMarks, String.toList_append, List.append_assoc]
  cases hl with
  | absent => exact hword.imp fun vs hvs => by simpa using hvs [] .absent
  | @present name p =>
    have hname := hg _ List.mem_cons_self
    simp only [Option.getD_some, isEmpty_eq_false_of_genuine hname, Bool.false_eq_true, ↓reduceIte,
      String.toList_append, String.reduceToList, List.append_assoc, List.cons_append,
      List.nil_append]
    refine .token (.lifetime name) hname rfl (.blank (hword.imp ?_))
    exact fun vs hvs p => by simpa using hvs [_] .present

/-- The text of a type goes on with a word at most. -/
theorem spells_type {ts : List Token} {t : TypeExpr} (ht : TypePhrase ts t) :
    AllGenuine ts → Spells isWordPart t.text.toList (TypePhrase · t) := by
  refine TypePhrase.induct
    (M := fun ts t => AllGenuine ts → Spells isWordPart t.text.toList (TypePhrase · t))
    (S := fun ts s => AllGenuine ts → Spells isWordPart s.text.toList (SegmentPhrase · s))
    (A := fun ts a => AllGenuine ts → Spells isWordPart a.text.toList (ArgumentPhrase · a))
    ?path ?reference ?tuple ?array ?plain ?applied ?type ?lifetime ?const ht
  case path =>
    intro ts us first others hfirst hothers hg
    have hall : ∀ s ∈ first :: others, Spells isWordPart s.text.toList (SegmentPhrase · s) := by
      refine List.forall_mem_cons.mpr ⟨hfirst (hg.within (List.prefix_append _ _).isInfix), ?_⟩
      intro s hs
      obtain ⟨_, hvs, p, vs, rfl, hs⟩ := hothers.exists_phrase s hs
      have hvs := (List.suffix_cons _ vs).isInfix.trans hvs
      exact hs (hg.within (hvs.trans (List.suffix_append _ _).isInfix))
    rw [TypeExpr.text, Segment.texts_eq]
    refine (spells_path rfl (fun _ _ _ => NextSegment.mk) hall).imp fun vs hvs => ?_
    obtain ⟨vs, ws, rfl, hfirst, hothers⟩ := hvs
    exact .path hfirst hothers
  case reference =>
    intro ls ms ts lifetime mutable referent p hl hm htype hg
    have hls : AllGenuine ls := hg.within ⟨[⟨.symbol .ampersand, p⟩], ms ++ ts, by simp⟩
    have hts : AllGenuine ts := hg.within ⟨⟨.symbol .ampersand, p⟩ :: (ls ++ ms), [], by simp⟩
    simp only [TypeExpr.text, String.toList_append, String.reduceToList, List.cons_append,
      List.nil_append]
    refine .mark .ampersand (fun _ _ => rfl) (spells_referenceMarks hl hm hls ?_)
    exact (htype hts).imp fun us hus ls ms hl hm p => .reference hl hm hus
  case tuple =>
    intro ts elements types hg
    have hall := forall_items hg types.exists_phrase
    by_cases hone : ∃ t, elements = [t]
    · obtain ⟨t, rfl⟩ := hone
      simp only [TypeExpr.text, String.toList_append, String.reduceToList, List.cons_append,
        List.nil_append]
      refine .mark .openParen (fun _ _ => rfl) (.before (hall t List.mem_cons_self) rfl ?_)
      refine .mark .comma (fun _ _ => rfl) (.mark .closeParen (fun _ _ => rfl) (.nil ?_))
      intro r q us hus p
      have hlist : Enclosed .openParen .closeParen TypePhrase _ [t] :=
        .items (p := p) (q := r) (.lastComma (p := q) hus)
      rw [List.append_assoc] at hlist
      exact .tuple hlist
    · rw [TypeExpr.text_tuple fun t ht => hone ⟨t, ht⟩]
      simp only [String.toList_append, String.reduceToList, List.cons_append, List.nil_append]
      exact spells_enclosed (fun _ => rfl) (fun _ => rfl) rfl rfl hall fun _ => .tuple
  case array =>
    intro ts element length p q r s htype hg
    have hts : AllGenuine ts := hg.within ⟨[_], _, rfl⟩
    have hlength : (Lexeme.number length).Genuine := hg ⟨.number length, r⟩ (by simp)
    simp only [TypeExpr.text, String.toList_append, String.reduceToList, List.append_assoc,
      List.cons_append, List.nil_append]
    refine .mark .openBracket (fun _ _ => rfl) (.before (htype hts) rfl ?_)
    refine .mark .semicolon (fun _ _ => rfl) (.blank (.token (.number length) hlength rfl ?_))
    exact .mark .closeBracket (fun _ _ => rfl) (.nil fun s r q us hus p => .array hus)
  case plain =>
    intro name p hg
    exact .lexeme (.name name) (hg _ List.mem_cons_self) fun _ => .plain
  case applied =>
    intro name ts arguments p list hg
    have hname := hg _ List.mem_cons_self
    have hts := hg.within (List.suffix_cons _ ts).isInfix
    have hall := forall_items hts list.exists_phrase
    simp only [Segment.text, GenericArg.texts_eq, String.toList_append, String.reduceToList,
      List.append_assoc, List.cons_append, List.nil_append]
    refine .token (.name name) hname rfl ?_
    exact spells_enclosed (fun _ => rfl) (fun _ => rfl) rfl rfl hall fun _ list p => .applied list
  case type => exact fun ts t htype hg => (htype hg).imp fun _ => .type
  case lifetime =>
    intro name p hg
    exact .lexeme (.lifetime name) (hg _ List.mem_cons_self) fun _ => .lifetime
  case const =>
    intro value p hg
    exact .lexeme (.number value) (hg _ List.mem_cons_self) fun _ => .const

theorem spells_typedField {ts : List Token} {t : TypeExpr} (ht : TypePhrase ts t)
    (hg : AllGenuine ts) : Spells isWordPart ("f: " ++ t.text).toList fun us =>
      ∃ f, NamedFieldPhrase us f ∧ ∃ p, f = { name := "f", type := t, location := some p } := by
  have hname : (Lexeme.name "f").Genuine := genuine_letter rfl rfl
  simp only [String.toList_append, String.reduceToList, List.cons_append, List.nil_append]
  refine .token (.name "f") hname rfl (.mark .colon (fun _ _ => rfl) (.blank ?_))
  refine (spells_type ht hg).imp fun us hus q p => ⟨_, ?_, p, rfl⟩
  exact .mk .nil .absent hus

/-- The types of all fields occur in the text, and whatever type occurs in it, its text is read back
as that type. -/
theorem parse_type_text {source : String} {ds : List Declaration} (h : parse source = .ok ds) :
    (∀ d ∈ ds, ∀ f ∈ d.fields, OccursIn TypePhrase f.type source) ∧
      ∀ t, OccursIn TypePhrase t source → ∃ p q,
        parse ("struct S \x7b f: " ++ t.text ++ " \x7d") = .ok [{
          name := "S"
          fields := [{ name := "f", type := t, location := some q }]
          location := some p }] := by
  refine ⟨fun d hd f hf => type_occurs h hd hf, ?_⟩
  rintro t ⟨tokens, ts, hsplits, hts, ht⟩
  have hg : AllGenuine ts := (genuine_of_splits hsplits).within hts
  obtain ⟨p, f, ⟨q, rfl⟩, hparse⟩ := exists_parse_of_field (spells_typedField ht hg)
  refine ⟨p, q, ?_⟩
  rw [← hparse, ← String.append_assoc]
  rfl

/-- Among others a tuple of one element, an empty list and one with a comma behind its last item. -/
theorem parse_type_text_nested : ∃ ds,
    parse "struct T(pub a::B<'s, &'a mut [&&C; 1_0], (D,), E<>,>::F);" = .ok ds ∧
      ∀ d ∈ ds, ∀ f ∈ d.fields,
        f.type.text = "a::B<'s, &'a mut [&&C; 1_0], (D,), E<>>::F" ∧ ∃ p q,
          parse ("struct S \x7b f: " ++ f.type.text ++ " \x7d") = .ok [{
            name := "S"
            fields := [{ name := "f", type := f.type, location := some q }]
            location := some p }] := by
  have hparse : parse "struct T(pub a::B<'s, &'a mut [&&C; 1_0], (D,), E<>,>::F);" = .ok [{
      name := "T"
      fields := [{
        type := .path [.plain "a", .applied "B" [.lifetime "'s",
          .type (.reference (some "'a") true (.array
            (.reference none false (.reference none false (.path [.plain "C"]))) "1_0")),
          .type (.tuple [.path [.plain "D"]]), .type (.path [.applied "E" []])], .plain "F"]
        location := some ⟨1, 10⟩ }]
      location := some ⟨1, 1⟩ }] := by cbv
  obtain ⟨hfields, hread⟩ := parse_type_text hparse
  refine ⟨_, hparse, fun d hd f hf => ⟨?_, hread f.type (hfields d hd f hf)⟩⟩
  simp only [List.mem_singleton] at hd
  subst hd
  simp only [List.mem_singleton] at hf
  subst hf
  cbv

end RecordBuilders.Syntax
