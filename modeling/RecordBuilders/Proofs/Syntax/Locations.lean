import RecordBuilders.Proofs.Syntax.Layout

/-! The locations in what was read. Main result: at the location of a declaration, a field or an
attribute the text reads as this construct begins, and locations go up from each to the next. -/
namespace RecordBuilders
open Text Syntax Lexer

namespace Text.Position

/-- Further up, or further to the left in one line. -/
def Before (p q : Position) : Prop :=
  p.line < q.line ∨ (p.line = q.line ∧ p.column < q.column)

variable {p q r : Position}

theorem Before.trans (h : p.Before q) (h' : q.Before r) : p.Before r := by
  unfold Before at *
  omega

theorem Before.irrefl : ¬p.Before p := by
  unfold Before
  omega

theorem before_next (c : Char) : p.Before (p.next c) := by
  unfold next Before
  split <;> simp

theorem before_advance {c : Char} {text : List Char} : p.Before (p.advance (c :: text)) := by
  induction text generalizing p c with
  | nil => exact before_next c
  | cons d text ih => exact (before_next c).trans ih

theorem before_or_eq_advance (text : List Char) :
    p.Before (p.advance text) ∨ p.advance text = p := by
  cases text with
  | nil => exact Or.inr rfl
  | cons c text => exact Or.inl before_advance

/-- Line feeds count lines, and what stands behind the last of them counts columns. -/
theorem advance_eq (text : List Char) : ({} : Position).advance text =
    ⟨1 + text.count '\n', 1 + (text.reverse.takeWhile (· != '\n')).length⟩ := by
  induction text using List.reverseRecOn with
  | nil => rfl
  | append_singleton text c ih =>
    rw [advance_append, ih, List.count_append, List.reverse_append]
    by_cases hc : c = '\n'
    · simp [next, hc, Int.add_assoc]
    · simp [next, hc, Int.add_comm]

end Text.Position

namespace Syntax
variable {source : String} {p q : Position} {rest rest' : List Char}

section Texts

/-- The place in the text that has the position, by what follows there. Only line feeds end lines,
and columns count characters. -/
def ReadsAt (source : String) (p : Position) (rest : List Char) : Prop :=
  ∃ before, source.toList = before ++ rest ∧ p.line = 1 + before.count '\n' ∧
    p.column = 1 + (before.reverse.takeWhile (· != '\n')).length

theorem readsAt_iff : ReadsAt source p rest ↔
    ∃ before, source.toList = before ++ rest ∧ p = ({} : Position).advance before := by
  apply exists_congr
  intro before
  rw [Position.advance_eq]
  obtain ⟨line, column⟩ := p
  simp

/-- Of two places the one with less behind it comes later. -/
theorem ReadsAt.before_iff (h : ReadsAt source p rest) (h' : ReadsAt source q rest') :
    p.Before q ↔ rest'.length < rest.length := by
  obtain ⟨before, htext, rfl⟩ := readsAt_iff.mp h
  obtain ⟨before', htext', rfl⟩ := readsAt_iff.mp h'
  have he := htext.symm.trans htext'
  rcases List.append_eq_append_iff.mp he with ⟨more, rfl, rfl⟩ | ⟨more, rfl, rfl⟩
  · rw [Position.advance_append]
    cases more with
    | nil => simp [Position.Before.irrefl]
    | cons c more =>
      have hb : (({} : Position).advance before).Before ((({} : Position).advance before).advance
        (c :: more)) := Position.before_advance
      simp only [hb, true_iff, List.length_append, List.length_cons]
      omega
  · rw [Position.advance_append]
    have hnot : ¬(({} : Position).advance before' |>.advance more).Before
        (({} : Position).advance before') := by
      intro hb
      rcases Position.before_or_eq_advance more with hm | hm
      · exact Position.Before.irrefl (hb.trans hm)
      · rw [hm] at hb
        exact Position.Before.irrefl hb
    simp [hnot]

/-- A position marks one place at most. -/
theorem ReadsAt.eq (h : ReadsAt source p rest) (h' : ReadsAt source p rest') : rest = rest' := by
  have hle := mt (h.before_iff h').mpr Position.Before.irrefl
  have hge := mt (h'.before_iff h).mpr Position.Before.irrefl
  obtain ⟨before, htext, _⟩ := h
  obtain ⟨before', htext', _⟩ := h'
  exact (List.append_inj' (htext.symm.trans htext') (by omega)).2

/-- The words come first in the text, each as far as it goes, with blanks and comments alone between
them. -/
inductive Reads : List Char → List String → Prop where
  | last {word : String} {rest : List Char} (longest : Longest word.toList rest) :
      Reads (word.toList ++ rest) [word]
  | cons {word : String} {gap rest : List Char} {words : List String}
      (longest : Longest word.toList (gap ++ rest)) (between : Gap gap rest)
      (more : Reads rest words) : Reads (word.toList ++ (gap ++ rest)) (word :: words)

theorem Splits.reads {cs : List Char} {t : Token} {ts us : List Token}
    (h : Splits p cs (t :: (ts ++ us))) : ∃ gap rest, cs = gap ++ rest ∧ Gap gap rest ∧
      t.position = p.advance gap ∧ Reads rest ((t :: ts).map fun t => t.lexeme.text) := by
  induction ts generalizing p cs t with
  | nil =>
    obtain ⟨gap, rest, hl, _⟩ := h.exists_leads
    exact ⟨gap, _, hl.text, hl.between, hl.position, .last hl.longest⟩
  | cons u ts ih =>
    obtain ⟨gap, rest, hl, hmore⟩ := h.exists_leads
    obtain ⟨gap', rest', rfl, hgap', _, hreads⟩ := ih hmore
    exact ⟨gap, _, hl.text, hl.between, hl.position, .cons hl.longest hgap' hreads⟩

/-- At the location the text reads as the words do. -/
def Stands (source : String) (location : Option Position) (words : List String) : Prop :=
  ∃ p rest, location = some p ∧ ReadsAt source p rest ∧ Reads rest words

theorem stands_of_infix {tokens : List Token} (h : Splits {} source.toList tokens) (t : Token)
    (ts : List Token) (ht : t :: ts <:+: tokens) :
    Stands source (some t.position) ((t :: ts).map fun t => t.lexeme.text) := by
  obtain ⟨us, vs, rfl⟩ := ht
  rw [List.append_assoc] at h
  obtain ⟨before, rest, htext, hsplits⟩ := h.drop
  obtain ⟨gap, behind, rfl, _, hp, hreads⟩ := hsplits.reads
  refine ⟨t.position, behind, rfl, readsAt_iff.mpr ⟨before ++ gap, by simp [htext], ?_⟩, hreads⟩
  rw [hp, Position.advance_append]

end Texts

section Order

/-- Tokens stand in the order in which they are found. -/
theorem Splits.pairwise {cs : List Char} {ts : List Token} (h : Splits p cs ts) :
    ts.Pairwise (fun t u => t.position.Before u.position) ∧
      ∀ t ∈ ts, p.Before t.position ∨ t.position = p := by
  induction ts generalizing p cs with
  | nil => simp
  | cons t ts ih =>
    obtain ⟨gap, rest, hl, hmore⟩ := h.exists_leads
    obtain ⟨hts, hfrom⟩ := ih hmore
    have hlater : ∀ u ∈ ts, t.position.Before u.position := by
      intro u hu
      obtain ⟨c, cs, he, _⟩ := start_of_terminal hl.genuine
      rw [he] at hfrom
      rcases hfrom u hu with hb | hb
      · exact Position.before_advance.trans hb
      · rw [hb]
        exact Position.before_advance
    have hfirst : p.Before t.position ∨ t.position = p := by
      rw [hl.position]
      exact Position.before_or_eq_advance gap
    refine ⟨List.pairwise_cons.mpr ⟨hlater, hts⟩, List.forall_mem_cons.mpr ⟨hfirst, ?_⟩⟩
    intro u hu
    rcases hfirst with hb | hb
    · exact Or.inl (hb.trans (hlater u hu))
    · exact Or.inl (hb ▸ hlater u hu)

/-- One place, and another that comes behind it. -/
def Earlier (a b : Option Position) : Prop := ∃ p q, a = some p ∧ b = some q ∧ p.Before q

end Order
end Syntax

namespace Syntax.Grammar
variable {α : Type} {P : List Token → α → Prop} {us : List Token} {as : List α}

section Stretches

/-- The items of a list have their tokens one after the other. -/
def InOrder (P : List Token → α → Prop) (us : List Token) (as : List α) : Prop :=
  ∃ tss : List (List Token), tss.flatten.Sublist us ∧ tss.Forall₂ P as

theorem InOrder.within {vs : List Token} (h : InOrder P us as) (hs : us.Sublist vs) :
    InOrder P vs as := by
  obtain ⟨tss, hus, hall⟩ := h
  exact ⟨tss, hus.trans hs, hall⟩

theorem InOrder.imp {Q : List Token → α → Prop} (h : InOrder P us as)
    (hpq : ∀ ts a, P ts a → Q ts a) : InOrder Q us as := by
  obtain ⟨tss, hus, hall⟩ := h
  exact ⟨tss, hus, hall.imp hpq⟩

theorem InOrder.cons {ts vs : List Token} {a : α} (ha : P ts a) (has : InOrder P us as)
    (hs : (ts ++ us).Sublist vs) : InOrder P vs (a :: as) := by
  obtain ⟨tss, hus, hall⟩ := has
  exact ⟨ts :: tss, ((List.Sublist.refl ts).append hus).trans hs, .cons ha hall⟩

theorem inOrder_nil : InOrder P us [] := ⟨[], List.nil_sublist us, .nil⟩

theorem Many.inOrder (h : Many P us as) : InOrder P us as := by
  induction h with
  | nil => exact inOrder_nil
  | cons head _ ih => exact .cons head ih (List.Sublist.refl _)

theorem CommaItems.inOrder (h : CommaItems P us as) : InOrder P us as := by
  induction h with
  | last head => exact .cons head (@inOrder_nil _ _ []) (by simp)
  | lastComma head => exact .cons head (@inOrder_nil _ _ []) (by simp)
  | cons head _ ih =>
    exact .cons head ih ((List.Sublist.refl _).append (List.sublist_cons_self _ _))

theorem Enclosed.inOrder {opening closing : Symbol} (h : Enclosed opening closing P us as) :
    InOrder P us as := by
  cases h with
  | empty => exact inOrder_nil
  | items items =>
    exact items.inOrder.within ((List.sublist_append_left _ _).trans (List.sublist_cons_self _ _))

theorem InOrder.exists_phrase (h : InOrder P us as) : ∀ a ∈ as, ∃ ts, ts.Sublist us ∧ P ts a := by
  obtain ⟨tss, hus, hall⟩ := h
  induction hall generalizing us with
  | nil => simp
  | @cons ts a tss as ha _ ih =>
    rw [List.flatten_cons] at hus
    refine List.forall_mem_cons.mpr ⟨⟨ts, (List.sublist_append_left _ _).trans hus, ha⟩, ?_⟩
    exact ih ((List.sublist_append_right _ _).trans hus)

/-- Items that are placed at tokens of their own are placed one behind the other. -/
theorem InOrder.earlier {location : α → Option Position} (h : InOrder P us as)
    (hus : us.Pairwise fun t u => t.position.Before u.position)
    (hloc : ∀ ts a, P ts a → ∃ t ∈ ts, location a = some t.position) :
    as.Pairwise fun a b => Earlier (location a) (location b) := by
  obtain ⟨tss, hsub, hall⟩ := h
  have hflat := hus.sublist hsub
  clear hsub hus
  induction hall with
  | nil => simp
  | @cons ts a tss as ha has ih =>
    rw [List.flatten_cons, List.pairwise_append] at hflat
    obtain ⟨_, htss, hacross⟩ := hflat
    refine List.pairwise_cons.mpr ⟨?_, ih htss⟩
    intro b hb
    obtain ⟨ts', hts', hb⟩ := InOrder.exists_phrase ⟨tss, .refl _, has⟩ b hb
    obtain ⟨t, ht, hla⟩ := hloc ts a ha
    obtain ⟨u, hu, hlb⟩ := hloc ts' b hb
    exact ⟨_, _, hla, hlb, hacross t ht u (hts'.subset hu)⟩

end Stretches

section Places
variable {ts : List Token} {f : Field} {d : Declaration}

theorem FieldPhrase.exists_place (h : FieldPhrase ts f) :
    ∃ t ∈ ts, f.location = some t.position := by
  rcases h with @⟨_, _, _, _, _, name, _, p, _, _, _, _⟩ | @⟨as, vs, us, _, _, _, _, _, type⟩
  · exact ⟨⟨.name name, p⟩, by simp, rfl⟩
  · obtain ⟨t, us, rfl, _⟩ := Parser.typePhrase_begins _ _ type
    obtain ⟨u, vs, he⟩ := List.exists_cons_of_ne_nil (l := as ++ vs ++ t :: us) (by simp)
    exact ⟨u, by simp [he], by simp [he]⟩

/-- The word for the kind and the name behind it. -/
theorem BodyPhrase.exists_word {attributes : List Attribute} (h : BodyPhrase attributes ts d) :
    ∃ word p q us, ts = ⟨.keyword word, p⟩ :: ⟨.name d.name, q⟩ :: us ∧ d.location = some p ∧
      word.text = d.kind.word ∧ (d.kind = .struct ∨ d.kind = .enum ∨ d.kind = .union) := by
  cases h with
  | struct => exact ⟨_, _, _, _, rfl, rfl, rfl, Or.inl rfl⟩
  | union => exact ⟨_, _, _, _, rfl, rfl, rfl, Or.inr (Or.inr rfl)⟩
  | enum => exact ⟨_, _, _, _, rfl, rfl, rfl, Or.inr (Or.inl rfl)⟩

theorem DeclarationPhrase.exists_place (h : DeclarationPhrase ts d) :
    ∃ t ∈ ts, d.location = some t.position := by
  obtain ⟨_, _, body⟩ := h
  obtain ⟨word, p, q, us, rfl, hlocation, _⟩ := body.exists_word
  exact ⟨⟨.keyword word, p⟩, by simp, hlocation⟩

theorem StructFields.inOrder {fields : List Field} (h : StructFields ts fields) :
    InOrder FieldPhrase ts fields := by
  cases h with
  | named list => exact list.inOrder.imp fun _ _ => Or.inl
  | tuple list =>
    exact (list.inOrder.imp fun _ _ => Or.inr).within (List.sublist_append_left _ _)
  | unit => exact inOrder_nil

theorem DeclarationPhrase.fields_inOrder (h : DeclarationPhrase ts d) :
    InOrder FieldPhrase ts d.fields := by
  obtain ⟨_, _, body⟩ := h
  refine InOrder.within ?_ (List.sublist_append_right _ _)
  cases body with
  | struct inside => exact inside.inOrder.within (by simp)
  | union inside => exact (inside.inOrder.imp fun _ _ => Or.inl).within (by simp)
  | enum => exact inOrder_nil

end Places
end Syntax.Grammar

namespace Syntax
open Grammar
variable {source : String} {tokens ts : List Token} {ds : List Declaration} {d : Declaration}

/-- An attribute is placed where it begins. -/
def Attribute.Located (source : String) (a : Attribute) : Prop :=
  ∃ first others, a.path = first :: others ∧ Stands source a.location ["#", "[", first]

/-- A named field is placed at its name, and one of a tuple where its tokens begin. -/
structure Field.Located (source : String) (f : Field) : Prop where
  named : ∀ name, f.name = some name → Stands source f.location [name, ":"]
  tuple : f.name = none →
    ∃ ts, TupleFieldPhrase ts f ∧ Stands source f.location (ts.map fun t => t.lexeme.text)
  annotations : ∀ a ∈ f.annotations, a.Located source

/-- A declaration is placed at the word for its kind, and its fields follow each other. -/
structure Declaration.Located (source : String) (d : Declaration) : Prop where
  kind : d.kind = .struct ∨ d.kind = .enum ∨ d.kind = .union
  name : Stands source d.location [d.kind.word, d.name]
  attributes : ∀ a ∈ d.attributes, a.Located source
  fields : ∀ f ∈ d.fields, f.Located source
  order : d.fields.Pairwise fun f g => Earlier f.location g.location

section Located
variable (hs : Splits {} source.toList tokens) (hi : ts <:+: tokens)
include hs hi

theorem attribute_located {a : Attribute} (h : AttributePhrase ts a) : a.Located source := by
  obtain @⟨ns, us, first, others, input, p, q, r, s, _, _⟩ := h
  refine ⟨first, others, rfl, stands_of_infix hs ⟨.symbol .hash, p⟩
    [⟨.symbol .openBracket, q⟩, ⟨.name first, r⟩] (List.IsInfix.trans ?_ hi)⟩
  exact ⟨[], ns ++ us ++ [⟨.symbol .closeBracket, s⟩], rfl⟩

theorem field_located {f : Field} (h : FieldPhrase ts f) : f.Located source := by
  have hannotations : ∀ a ∈ f.annotations, a.Located source := by
    intro a ha
    obtain ⟨us, hus, hp⟩ := h.exists_attribute a ha
    exact attribute_located hs (hus.trans hi) hp
  rcases h with @⟨as, vs, us, _, _, name, _, p, q, _, _, _⟩ | h
  · refine ⟨?_, by simp, hannotations⟩
    intro n hn
    cases hn
    refine stands_of_infix hs ⟨.name name, p⟩ [⟨.symbol .colon, q⟩] (List.IsInfix.trans ?_ hi)
    exact ⟨as ++ vs, us, by simp⟩
  · obtain ⟨t, us, rfl, _⟩ := Parser.tupleFieldPhrase_begins _ _ h
    have hlocation : f.name = none ∧ f.location = some t.position := by
      generalize hts : t :: us = ts at h
      obtain ⟨_, _, _⟩ := h
      exact ⟨rfl, by rw [← hts]; rfl⟩
    refine ⟨by simp [hlocation.1], fun _ => ⟨_, h, ?_⟩, hannotations⟩
    rw [hlocation.2]
    exact stands_of_infix hs t us hi

theorem declaration_located (h : DeclarationPhrase ts d) : d.Located source := by
  refine ⟨?kind, ?name, ?attributes, ?fields, ?order⟩
  case attributes =>
    intro a ha
    obtain ⟨us, hus, hp⟩ := h.exists_attribute a ha
    exact attribute_located hs (hus.trans hi) hp
  case fields =>
    intro f hf
    obtain ⟨us, hus, hp⟩ := h.exists_field f hf
    exact field_located hs (hus.trans hi) hp
  case order =>
    exact h.fields_inOrder.earlier (hs.pairwise.1.sublist hi.sublist)
      fun _ _ => FieldPhrase.exists_place
  all_goals
    obtain @⟨as, vs, us, _, _, _, _, _, body⟩ := h
    obtain ⟨word, p, q, more, rfl, hlocation, hword, hkind⟩ := body.exists_word
  case kind => exact hkind
  case name =>
    rw [hlocation, ← hword]
    refine stands_of_infix hs ⟨.keyword word, p⟩ [⟨.name d.name, q⟩] (List.IsInfix.trans ?_ hi)
    exact ⟨as ++ vs, more, by simp⟩

end Located

/-- In an accepted text every construct is placed where it stands: a declaration at its keyword, a
named field at its name, a field of a tuple at its first token, and an attribute at its hash sign.
Declarations, and the fields of each of them, are placed one behind the other. -/
theorem parse_locates {source : String} {ds : List Declaration} (h : parse source = .ok ds) :
    (∀ d ∈ ds, d.Located source) ∧ ds.Pairwise fun d e => Earlier d.location e.location := by
  obtain ⟨tokens, hs, hstart⟩ := parse_eq_ok_iff.mp h
  constructor
  · intro d hd
    obtain ⟨ts, hi, hp⟩ := Many.exists_phrase hstart d hd
    exact declaration_located hs hi hp
  · exact (Many.inOrder hstart).earlier hs.pairwise.1 fun _ _ => DeclarationPhrase.exists_place

/-- Two records, with comments in their midst. -/
def twoRecords : String :=
  "/* a\n */ pub struct A \x7b\n b /* : */ : u8 \x7d struct /**/ B(#[c] &mut D);"

/-- Comments may span lines, and stand between a name and its colon. -/
theorem parse_locates_lines : ∃ ds, parse twoRecords = .ok ds ∧
    ds.map Declaration.location = [some ⟨2, 9⟩, some ⟨3, 19⟩] ∧
    (ds.flatMap Declaration.fields).map Field.location = [some ⟨3, 2⟩, some ⟨3, 33⟩] ∧
    ∀ d ∈ ds, d.Located twoRecords := by
  have hread : parse twoRecords = .ok [
      { name := "A"
        fields := [{ name := some "b", type := .path [.plain "u8"], location := some ⟨3, 2⟩ }]
        location := some ⟨2, 9⟩ },
      { name := "B"
        fields := [{
          type := .reference none true (.path [.plain "D"])
          annotations := [{ path := ["c"], location := some ⟨3, 33⟩ }]
          location := some ⟨3, 33⟩ }]
        location := some ⟨3, 19⟩ }] := by cbv
  exact ⟨_, hread, rfl, rfl, (parse_locates hread).1⟩

end Syntax
end RecordBuilders
