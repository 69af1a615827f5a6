import Mathlib
import RecordBuilders.Proofs.Syntax.AttributeGrammar
import RecordBuilders.Proofs.Syntax.Terminals
import RecordBuilders.Proofs.Syntax.TypeGrammar
import RecordBuilders.Syntax.Source

/-! Texts and the grammar. Main result: a text is read as a list of declarations exactly if it splits
into terminals that derive this list, and no text and no tokens derive two. -/
namespace RecordBuilders.Syntax
open Text Grammar

namespace Parser

/-- The tokens with which a named field begins. -/
def StartsNamedField (l : Lexeme) : Prop :=
  l = .symbol .hash ∨ l = .keyword .pub ∨ ∃ name, l = .name name

/-- The tokens with which a field of a tuple begins. -/
def StartsTupleField (l : Lexeme) : Prop :=
  l = .symbol .hash ∨ l = .keyword .pub ∨ StartsType l

/-- The tokens with which a variant begins. -/
def StartsVariant (l : Lexeme) : Prop :=
  l = .symbol .hash ∨ ∃ name, l = .name name

section Sound

theorem namedField_sound : Sound namedField NamedFieldPhrase := by
  refine Sound.bind attributes_sound fun as annotations has => ?_
  refine (Sound.optionalWord .pub).bind fun vs visible hvs => Sound.here_bind fun location => ?_
  refine Sound.bind Sound.name fun us name hus => (Sound.expect _).bind fun ws _ hws => ?_
  refine Sound.bind type_sound fun ts type hts => .pure ?_
  obtain ⟨p, rfl⟩ := hus
  obtain ⟨q, rfl⟩ := hws
  refine ⟨by simp, ?_⟩
  rintro rfl
  rw [List.append_nil, ← List.append_assoc]
  exact .mk has hvs hts

theorem tupleField_sound : Sound tupleField TupleFieldPhrase := by
  refine Sound.here_bind fun location => Sound.bind attributes_sound fun as annotations has => ?_
  refine (Sound.optionalWord .pub).bind fun vs visible hvs => Sound.bind type_sound fun ts type hts =>
    .pure ?_
  obtain ⟨t, us, rfl, _⟩ := typePhrase_begins _ _ hts
  refine ⟨by simp, ?_⟩
  rintro rfl
  rw [List.append_nil, ← List.append_assoc]
  exact .mk has hvs hts

theorem namedFields_sound (p : Position) : Sound namedFields fun ts fields =>
    Enclosed .openBrace .closeBrace NamedFieldPhrase (⟨.symbol .openBrace, p⟩ :: ts) fields :=
  Sound.commaList namedField_sound .openBrace .closeBrace p

theorem tupleFields_sound (p : Position) : Sound tupleFields fun ts fields =>
    Enclosed .openParen .closeParen TupleFieldPhrase (⟨.symbol .openParen, p⟩ :: ts) fields :=
  Sound.commaList tupleField_sound .openParen .closeParen p

theorem variantFields_sound : Sound (choose (fun
    | .symbol .openBrace => some namedFields
    | .symbol .openParen => some tupleFields
    | _ => none) (pure [])) VariantFields := by
  refine Sound.choose ?_ (.pure .none)
  intro lexeme position k hk
  cases lexeme with
  | symbol symbol =>
    cases symbol with
    | openBrace =>
      cases hk
      exact (namedFields_sound position).imp fun _ _ => .named
    | openParen =>
      cases hk
      exact (tupleFields_sound position).imp fun _ _ => .tuple
    | _ => cases hk
  | _ => cases hk

theorem variant_sound : Sound variant VariantPhrase := by
  refine Sound.bind attributes_sound fun as annotations has => ?_
  refine Sound.bind Sound.name fun us name hus => ?_
  refine Sound.bind variantFields_sound fun ts fields hts => .pure ?_
  obtain ⟨p, rfl⟩ := hus
  rw [List.append_nil]
  exact .mk has hts

theorem structFields_sound : Sound structFields StructFields := by
  apply Sound.branch
  intro lexeme position k hk
  cases lexeme with
  | symbol symbol =>
    cases symbol with
    | openBrace =>
      cases hk
      exact (namedFields_sound position).imp fun _ _ => .named
    | openParen =>
      cases hk
      refine (tupleFields_sound position).bind fun ts fields hts =>
        (Sound.expect _).bind fun us _ hus => .pure ?_
      obtain ⟨p, rfl⟩ := hus
      exact .tuple hts
    | semicolon =>
      cases hk
      exact .pure .unit
    | _ => cases hk
  | _ => cases hk

theorem declaration_sound : Sound declaration DeclarationPhrase := by
  refine Sound.bind attributes_sound fun as attributes has => ?_
  refine (Sound.optionalWord .pub).bind fun vs visible hvs => ?_
  refine Sound.imp (P := BodyPhrase attributes) (Sound.here_bind fun location => ?_)
    fun us d hd => ?_
  · apply Sound.branch
    intro lexeme position k hk
    cases lexeme with
    | keyword word =>
      cases word with
      | struct =>
        cases hk
        refine Sound.bind Sound.name fun us name hus =>
          Sound.bind structFields_sound fun ts fields hts => .pure ⟨by simp, ?_⟩
        obtain ⟨p, rfl⟩ := hus
        rintro rfl
        rw [List.append_nil]
        exact .struct hts
      | union =>
        cases hk
        refine Sound.bind Sound.name fun us name hus => (Sound.expect _).bind fun ws _ hws => ?_
        obtain ⟨p, rfl⟩ := hus
        obtain ⟨q, rfl⟩ := hws
        refine (namedFields_sound q).bind fun ts fields hts => .pure ⟨by simp, ?_⟩
        rintro rfl
        rw [List.append_nil]
        exact .union hts
      | enum =>
        cases hk
        refine Sound.bind Sound.name fun us name hus => (Sound.expect _).bind fun ws _ hws => ?_
        obtain ⟨p, rfl⟩ := hus
        obtain ⟨q, rfl⟩ := hws
        refine (Sound.commaList variant_sound .openBrace .closeBrace q).bind fun ts variants hts =>
          .pure ⟨by simp, ?_⟩
        rintro rfl
        rw [List.append_nil]
        exact .enum hts
      | _ => cases hk
    | _ => cases hk
  · rw [← List.append_assoc]
    exact .mk has hvs hd

end Sound

section Begins

/-- What begins with attributes begins with a hash sign, or as the rest does. -/
theorem exists_head {as ts : List Token} {annotations : List Attribute}
    (has : Many AttributePhrase as annotations) {first : Lexeme → Prop}
    (hts : ∃ t us, ts = t :: us ∧ first t.lexeme) (hhash : first (.symbol .hash)) :
    ∃ t us, as ++ ts = t :: us ∧ first t.lexeme := by
  cases has with
  | nil => exact hts
  | cons head _ =>
    obtain ⟨t, us, rfl, ht⟩ := attributePhrase_begins _ _ head
    exact ⟨t, _, rfl, by rw [ht]; exact hhash⟩

theorem exists_head_of_word {vs ts : List Token} {visible : Bool}
    (hvs : OptionalWord .pub vs visible) {first : Lexeme → Prop}
    (hts : ∃ t us, ts = t :: us ∧ first t.lexeme) (hpub : first (.keyword .pub)) :
    ∃ t us, vs ++ ts = t :: us ∧ first t.lexeme := by
  cases hvs with
  | absent => exact hts
  | present => exact ⟨_, _, rfl, hpub⟩

theorem namedFieldPhrase_begins : BeginsWith NamedFieldPhrase StartsNamedField := by
  rintro _ _ ⟨has, hvs, _⟩
  rw [List.append_assoc]
  exact exists_head has (exists_head_of_word hvs ⟨_, _, rfl, by simp [StartsNamedField]⟩
    (by simp [StartsNamedField])) (by simp [StartsNamedField])

theorem tupleFieldPhrase_begins : BeginsWith TupleFieldPhrase StartsTupleField := by
  rintro _ _ ⟨has, hvs, hts⟩
  obtain ⟨t, us, rfl, ht⟩ := typePhrase_begins _ _ hts
  rw [List.append_assoc]
  exact exists_head has (exists_head_of_word hvs ⟨t, us, rfl, Or.inr (Or.inr ht)⟩
    (by simp [StartsTupleField])) (by simp [StartsTupleField])

theorem variantPhrase_begins : BeginsWith VariantPhrase StartsVariant := by
  rintro _ _ ⟨has, _⟩
  exact exists_head has ⟨_, _, rfl, by simp [StartsVariant]⟩ (by simp [StartsVariant])

theorem bodyPhrase_begins (attributes : List Attribute) :
    BeginsWith (BodyPhrase attributes)
      fun l => l = .keyword .struct ∨ l = .keyword .union ∨ l = .keyword .enum := by
  rintro _ _ (_ | _ | _) <;> exact ⟨_, _, rfl, by simp⟩

theorem ne_nil_of_declarationPhrase {ts : List Token} {d : Declaration}
    (h : DeclarationPhrase ts d) : ts ≠ [] := by
  obtain ⟨_, _, body⟩ := h
  obtain ⟨t, us, rfl, _⟩ := bodyPhrase_begins _ _ _ body
  simp

end Begins

section Complete

/-- The attributes and the visibility in front of a field or a declaration. -/
theorem marks_eq {as vs ts : List Token} {annotations : List Attribute} {visible : Bool}
    (has : Many AttributePhrase as annotations) (hvs : OptionalWord .pub vs visible)
    (hts : Stops [.symbol .hash, .keyword .pub] ts) {α : Type} (q : List Attribute → Bool → Parser α) :
    (do let annotations ← attributes; let visible ← optional (.keyword .pub); q annotations visible)
      (as ++ vs ++ ts) = q annotations visible ts := by
  have hword : Stops [.symbol .hash] (vs ++ ts) := by
    cases hvs with
    | absent => exact hts.of_subset (by simp)
    | present => simp
  have hhead := attributes_complete _ as annotations (vs ++ ts) (Nat.le_refl _) has hword
  have hvisible := complete_optionalWord .pub vs visible ts (Nat.le_refl _) hvs
    (hts.of_subset (by simp))
  rw [List.append_assoc, bind_eq hhead, bind_eq hvisible]

theorem namedField_complete (n : Nat) : Complete n namedField NamedFieldPhrase typeTail := by
  rintro _ field rest hb h hr
  obtain @⟨as, vs, ts, annotations, visible, name, type, p, q, has, hvs, hts⟩ := h
  have htype := type_complete _ ts type rest (Nat.le_refl _) hts hr
  rw [List.append_assoc, List.cons_append, List.cons_append]
  refine (marks_eq has hvs (stops_cons.mpr (by simp)) _).trans ?_
  rw [bind_eq rfl, bind_eq name_cons, bind_eq expect_cons, bind_eq htype]
  rfl

theorem tupleField_complete (n : Nat) : Complete n tupleField TupleFieldPhrase typeTail := by
  rintro _ field rest hb h hr
  obtain @⟨as, vs, ts, annotations, visible, type, has, hvs, hts⟩ := h
  have htype := type_complete _ ts type rest (Nat.le_refl _) hts hr
  have hne : as ++ vs ++ ts ≠ [] := by
    obtain ⟨t, us, rfl, _⟩ := typePhrase_begins _ _ hts
    simp
  rw [tupleField, bind_eq rfl, List.head?_append_of_ne_nil _ hne, List.append_assoc (as ++ vs)]
  refine (marks_eq has hvs (.of_begins typePhrase_begins hts (by simp [StartsType])) _).trans ?_
  rw [bind_eq htype]
  rfl

theorem namedFields_eq {used : List Token} {fields : List Field}
    (h : Enclosed .openBrace .closeBrace NamedFieldPhrase used fields) :
    ∃ p us, used = ⟨.symbol .openBrace, p⟩ :: us ∧
      ∀ rest, namedFields (us ++ rest) = .ok (fields, rest) :=
  commaList_eq (namedField_complete _) namedFieldPhrase_begins
    ⟨by simp [StartsNamedField], by simp [typeTail], by simp [typeTail, comma], by simp [comma]⟩ h
    (Nat.le_succ _)

theorem tupleFields_eq {used : List Token} {fields : List Field}
    (h : Enclosed .openParen .closeParen TupleFieldPhrase used fields) :
    ∃ p us, used = ⟨.symbol .openParen, p⟩ :: us ∧
      ∀ rest, tupleFields (us ++ rest) = .ok (fields, rest) :=
  commaList_eq (tupleField_complete _) tupleFieldPhrase_begins
    ⟨by simp [StartsTupleField, StartsType], by simp [typeTail], by simp [typeTail, comma],
      by simp [comma]⟩ h (Nat.le_succ _)

/-- A variant without fields stops where none begin. -/
theorem variant_complete (n : Nat) :
    Complete n variant VariantPhrase [.symbol .openBrace, .symbol .openParen] := by
  intro used name rest _ h hr
  obtain @⟨as, ts, annotations, fields, _, p, has, hts⟩ := h
  have hhead := attributes_complete _ as annotations (⟨.name name, p⟩ :: (ts ++ rest))
    (Nat.le_refl _) has (by simp)
  rw [List.append_assoc, List.cons_append, variant, bind_eq hhead, bind_eq name_cons]
  refine (bind_eq (a := fields) (r := rest) ?_).trans rfl
  cases hts with
  | none =>
    cases rest with
    | nil => rfl
    | cons t ts =>
      obtain ⟨lexeme, q⟩ := t
      have hne : lexeme ≠ .symbol .openBrace ∧ lexeme ≠ .symbol .openParen := by simpa using hr
      cases lexeme with
      | symbol symbol =>
        cases symbol with
        | openBrace => exact absurd rfl hne.1
        | openParen => exact absurd rfl hne.2
        | _ => rfl
      | _ => rfl
  | named list =>
    obtain ⟨q, us, rfl, hlist⟩ := namedFields_eq list
    exact hlist rest
  | tuple list =>
    obtain ⟨q, us, rfl, hlist⟩ := tupleFields_eq list
    exact hlist rest

theorem structFields_complete (n : Nat) : Complete n structFields StructFields [] := by
  intro used fields rest _ h _
  cases h with
  | named list =>
    obtain ⟨q, us, rfl, hlist⟩ := namedFields_eq list
    exact hlist rest
  | @tuple ts fields p list =>
    obtain ⟨q, us, rfl, hlist⟩ := tupleFields_eq list
    rw [List.append_assoc, List.cons_append]
    rw [structFields, branch_eq rfl, bind_eq (hlist _), List.singleton_append, bind_eq expect_cons]
    rfl
  | unit => rfl

theorem declaration_complete (n : Nat) : Complete n declaration DeclarationPhrase [] := by
  intro used d rest _ h _
  obtain @⟨as, vs, ts, attributes, visible, _, has, hvs, body⟩ := h
  rw [List.append_assoc]
  refine (marks_eq has hvs (.of_begins (bodyPhrase_begins attributes) body (by simp)) _).trans ?_
  rw [bind_eq rfl]
  cases body with
  | struct inside =>
    have hfields := structFields_complete _ _ _ rest (Nat.le_refl _) inside stops_empty
    rw [List.cons_append, branch_eq rfl, List.cons_append, bind_eq name_cons, bind_eq hfields]
    rfl
  | union inside =>
    obtain ⟨q, us, rfl, hlist⟩ := namedFields_eq inside
    simp only [List.cons_append]
    rw [branch_eq rfl, bind_eq name_cons, bind_eq expect_cons, bind_eq (hlist rest)]
    rfl
  | enum inside =>
    obtain ⟨q, us, rfl, hlist⟩ := commaList_eq (variant_complete _) variantPhrase_begins
      ⟨by simp [StartsVariant], by simp, by simp [comma], by simp [comma]⟩ inside (Nat.le_succ _)
    simp only [List.cons_append]
    rw [branch_eq rfl, bind_eq name_cons, bind_eq expect_cons, bind_eq (hlist rest)]
    rfl

end Complete

theorem declarationsUpTo_eq_ok_iff {bound : Nat} {tokens : List Token} {ds : List Declaration}
    {rest : List Token} (hb : tokens.length ≤ bound) :
    declarationsUpTo bound tokens = .ok (ds, rest) ↔ rest = [] ∧ Start tokens ds := by
  constructor
  · intro h
    induction bound generalizing tokens ds with
    | zero =>
      cases List.length_eq_zero_iff.mp (Nat.le_zero.mp hb)
      cases h
      exact ⟨rfl, .nil⟩
    | succ bound ih =>
      unfold declarationsUpTo at h
      split at h
      · next hempty =>
        cases List.isEmpty_iff.mp hempty
        cases h
        exact ⟨rfl, .nil⟩
      · obtain ⟨d, left, hd, h⟩ := bind_eq_ok h
        obtain ⟨ds', rest', hds, h⟩ := bind_eq_ok h
        cases h
        obtain ⟨us, rfl, hus⟩ := declaration_sound tokens d left hd
        have hlen := List.length_pos_iff.mpr (ne_nil_of_declarationPhrase hus)
        rw [List.length_append] at hb
        obtain ⟨rfl, hleft⟩ := ih (by omega) hds
        exact ⟨rfl, .cons hus hleft⟩
  · rintro ⟨rfl, h⟩
    induction h generalizing bound with
    | nil => cases bound <;> rfl
    | @cons ts us d ds head tail ih =>
      obtain ⟨t, vs, rfl⟩ := List.exists_cons_of_ne_nil (ne_nil_of_declarationPhrase head)
      rw [List.length_append, List.length_cons] at hb
      cases bound with
      | zero => omega
      | succ bound =>
        have hd := declaration_complete _ _ d us (Nat.le_refl _) head stops_empty
        have hds := @ih bound (by omega)
        simp only [declarationsUpTo, List.cons_append, List.isEmpty_cons, Bool.false_eq_true,
          ↓reduceIte]
        rw [← List.cons_append, bind_eq hd, bind_eq hds]
        rfl

theorem declarations_eq_ok_iff {tokens rest : List Token} {ds : List Declaration} :
    declarations tokens = .ok (ds, rest) ↔ rest = [] ∧ Start tokens ds :=
  declarationsUpTo_eq_ok_iff (Nat.le_refl _)

end Parser

/-- Tokens derive one list of declarations at most. -/
theorem eq_of_start {tokens : List Token} {ds ds' : List Declaration} (h : Start tokens ds)
    (h' : Start tokens ds') : ds = ds' := by
  have hread := Parser.declarations_eq_ok_iff.mpr ⟨rfl, h⟩
  have hread' := Parser.declarations_eq_ok_iff.mpr ⟨rfl, h'⟩
  simpa [hread] using hread'

/-- A text splits in one way at most. -/
theorem eq_of_splits {p : Position} {cs : List Char} {tokens tokens' : List Token}
    (h : Splits p cs tokens) (h' : Splits p cs tokens') : tokens = tokens' := by
  have hscan := splits_iff_scanFrom.mp h
  have hscan' := splits_iff_scanFrom.mp h'
  simpa [hscan] using hscan'

theorem Scan.declarations_eq_ok_iff {s : Scan} {ds : List Declaration} :
    s.declarations = .ok ds ↔ s.stray = none ∧ Start s.tokens ds := by
  unfold Scan.declarations
  constructor
  · intro h
    split at h
    · cases h
    · cases h
    · next hread =>
      split at h
      · cases h
      · next hstray =>
        cases h
        exact ⟨hstray, (Parser.declarations_eq_ok_iff.mp hread).2⟩
  · rintro ⟨hstray, h⟩
    rw [Parser.declarations_eq_ok_iff.mpr ⟨rfl, h⟩, hstray]

theorem parse_eq_ok_iff {source : String} {ds : List Declaration} :
    parse source = .ok ds ↔ ∃ tokens, Splits {} source.toList tokens ∧ Start tokens ds := by
  rw [parse, Scan.declarations_eq_ok_iff]
  constructor
  · rintro ⟨hstray, h⟩
    exact ⟨_, splits_iff_scanFrom.mpr (by rw [← hstray, scan]), h⟩
  · rintro ⟨tokens, hsplits, h⟩
    rw [scan, splits_iff_scanFrom.mp hsplits]
    exact ⟨rfl, h⟩

/-- The declarations of a text are what its terminals derive. There is one way at most to split a
text, and one list at most that its tokens derive. -/
theorem parse_reads_grammar (source : String) :
    (∀ ds, parse source = .ok ds ↔ ∃ tokens, Splits {} source.toList tokens ∧ Start tokens ds) ∧
      (∀ tokens tokens', Splits {} source.toList tokens → Splits {} source.toList tokens' →
        tokens = tokens') ∧
      ∀ tokens ds ds', Start tokens ds → Start tokens ds' → ds = ds' :=
  ⟨fun _ => parse_eq_ok_iff, fun _ _ => eq_of_splits, fun _ _ _ => eq_of_start⟩

/-- Of the words and marks below, comments and the comma behind the last variant leave no trace. -/
theorem parse_reads_die : ∃ tokens,
    Splits {} "/* */ enum Die \x7b Odd, #[x] Even, \x7d // end".toList tokens ∧
      ∀ ds, Start tokens ds ↔ ds = [{
        name := "Die", kind := .enum, variants := ["Odd", "Even"], location := some ⟨1, 7⟩ }] := by
  obtain ⟨hread, _, hone⟩ := parse_reads_grammar "/* */ enum Die \x7b Odd, #[x] Even, \x7d // end"
  obtain ⟨tokens, hsplits, hstart⟩ := (hread _).mp (by cbv)
  exact ⟨tokens, hsplits, fun ds => ⟨fun h => hone _ _ _ h hstart, fun h => h ▸ hstart⟩⟩

end RecordBuilders.Syntax
