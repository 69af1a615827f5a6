import RecordBuilders.Proofs.Field.Likeness
import RecordBuilders.Proofs.Syntax.Grammar

/-! Phrases without their places. What tokens derive depends on their lexemes alone, apart from the
places in it. -/
namespace RecordBuilders.Syntax
open Text

def Field.unplaced (f : Field) : Field :=
  { f with annotations := f.annotations.map Attribute.bare, location := none }

def Declaration.unplaced (d : Declaration) : Declaration :=
  { d with
    fields := d.fields.map Field.unplaced
    attributes := d.attributes.map Attribute.bare
    location := none }

theorem Field.bare_unplaced (f : Field) : f.unplaced.bare = f.bare := by
  simp [Field.bare, Field.unplaced, ← List.map_take, Attribute.bare]

theorem Declaration.bare_unplaced (d : Declaration) : d.unplaced.bare = d.bare := by
  simp [Declaration.bare, Declaration.unplaced, Field.bare_unplaced]

namespace Grammar
variable {α β : Type}

/-- Other tokens with the lexemes of a phrase are a phrase as well, for the same to `e`. -/
def Carries (M P : List Token → α → Prop) (e : α → β) : Prop :=
  ∀ ts a us, M ts a → us.map Token.lexeme = ts.map Token.lexeme → ∃ b, e b = e a ∧ P us b

section Lists
variable {ts us vs : List Token} {t : Token} {l : Lexeme} {p : Position}

theorem exists_append (h : us.map Token.lexeme = (ts ++ vs).map Token.lexeme) :
    ∃ ts' vs', us = ts' ++ vs' ∧ ts'.map Token.lexeme = ts.map Token.lexeme ∧
      vs'.map Token.lexeme = vs.map Token.lexeme := by
  rw [List.map_append] at h
  exact List.map_eq_append_iff.mp h

theorem exists_cons (h : us.map Token.lexeme = (⟨l, p⟩ :: ts : List Token).map Token.lexeme) :
    ∃ q ts', us = ⟨l, q⟩ :: ts' ∧ ts'.map Token.lexeme = ts.map Token.lexeme := by
  obtain ⟨⟨lexeme, q⟩, ts', rfl, rfl, hts⟩ := List.map_eq_cons_iff.mp h
  exact ⟨q, ts', rfl, hts⟩

theorem eq_nil (h : us.map Token.lexeme = ([] : List Token).map Token.lexeme) : us = [] :=
  List.map_eq_nil_iff.mp h

theorem exists_singleton (h : us.map Token.lexeme = [(⟨l, p⟩ : Token)].map Token.lexeme) :
    ∃ q, us = [⟨l, q⟩] := by
  obtain ⟨q, ts', rfl, hts⟩ := exists_cons h
  rw [eq_nil hts]
  exact ⟨q, rfl⟩

end Lists

section Repetition
variable {M P : List Token → α → Prop} {e : α → β} (h : Carries M P e)
include h

theorem Carries.many : Carries (Many M) (Many P) (List.map e) := by
  intro ts as us hm hus
  induction hm generalizing us with
  | nil =>
    rw [eq_nil hus]
    exact ⟨[], rfl, .nil⟩
  | cons head _ ih =>
    obtain ⟨ts', us', rfl, hts', hus'⟩ := exists_append hus
    obtain ⟨b, hb, hhead⟩ := h _ _ _ head hts'
    obtain ⟨bs, hbs, htail⟩ := ih us' hus'
    exact ⟨b :: bs, by simp [hb, hbs], .cons hhead htail⟩

theorem Carries.commaItems : Carries (CommaItems M) (CommaItems P) (List.map e) := by
  intro ts as us hm hus
  induction hm generalizing us with
  | last head =>
    obtain ⟨b, hb, hhead⟩ := h _ _ _ head hus
    exact ⟨[b], by simp [hb], .last hhead⟩
  | lastComma head =>
    obtain ⟨ts', us', rfl, hts', hcomma⟩ := exists_append hus
    obtain ⟨q, rfl⟩ := exists_singleton hcomma
    obtain ⟨b, hb, hhead⟩ := h _ _ _ head hts'
    exact ⟨[b], by simp [hb], .lastComma hhead⟩
  | cons head _ ih =>
    obtain ⟨ts', us', rfl, hts', hmore⟩ := exists_append hus
    obtain ⟨q, us', rfl, hus'⟩ := exists_cons hmore
    obtain ⟨b, hb, hhead⟩ := h _ _ _ head hts'
    obtain ⟨bs, hbs, htail⟩ := ih us' hus'
    exact ⟨b :: bs, by simp [hb, hbs], .cons hhead htail⟩

theorem Carries.enclosed (opening closing : Symbol) :
    Carries (Enclosed opening closing M) (Enclosed opening closing P) (List.map e) := by
  intro ts as us hm hus
  cases hm with
  | empty =>
    obtain ⟨q, us', rfl, hmore⟩ := exists_cons hus
    obtain ⟨r, rfl⟩ := exists_singleton hmore
    exact ⟨[], rfl, .empty⟩
  | items items =>
    obtain ⟨q, us', rfl, hmore⟩ := exists_cons hus
    obtain ⟨ts', us', rfl, hts', hclosing⟩ := exists_append hmore
    obtain ⟨r, rfl⟩ := exists_singleton hclosing
    obtain ⟨bs, hbs, hitems⟩ := h.commaItems _ _ _ items hts'
    exact ⟨bs, hbs, .items hitems⟩

end Repetition

theorem optionalWord_carries (word : Keyword) :
    Carries (OptionalWord word) (OptionalWord word) id := by
  intro ts b us hm hus
  cases hm with
  | absent =>
    rw [eq_nil hus]
    exact ⟨false, rfl, .absent⟩
  | present =>
    obtain ⟨q, rfl⟩ := exists_singleton hus
    exact ⟨true, rfl, .present⟩

/-- The phrase for a thing stays one with other tokens of the same lexemes. -/
def Keeps (P : List Token → α → Prop) (ts : List Token) (a : α) : Prop :=
  ∀ us, us.map Token.lexeme = ts.map Token.lexeme → P us a

theorem carries_of_keeps {P : List Token → α → Prop} : Carries (Keeps P) P id :=
  fun _ a us h hus => ⟨a, rfl, h us hus⟩

theorem Carries.exact {M P : List Token → α → Prop} (h : Carries M P id) {ts us : List Token}
    {a : α} (hm : M ts a) (hus : us.map Token.lexeme = ts.map Token.lexeme) : P us a := by
  obtain ⟨b, rfl, hb⟩ := h ts a us hm hus
  exact hb

theorem Carries.exact_list {M P : List Token → List α → Prop} (h : Carries M P (List.map id))
    {ts us : List Token} {as : List α} (hm : M ts as)
    (hus : us.map Token.lexeme = ts.map Token.lexeme) : P us as := by
  rw [List.map_id_fun] at h
  exact h.exact hm hus

theorem typePhrase_keeps {ts : List Token} {t : TypeExpr} (h : TypePhrase ts t) :
    Keeps TypePhrase ts t := by
  refine TypePhrase.induct (M := Keeps TypePhrase) (S := Keeps SegmentPhrase)
    (A := Keeps ArgumentPhrase) ?path ?reference ?tuple ?array ?plain ?applied ?type ?lifetime
    ?const h
  case path =>
    intro ts us first others head tail vs hvs
    obtain ⟨ts', us', rfl, hts', hus'⟩ := exists_append hvs
    have hnext : Carries (fun us s => ∃ p vs, us = ⟨.symbol .pathSep, p⟩ :: vs ∧
        Keeps SegmentPhrase vs s) NextSegment id := by
      rintro _ s us ⟨p, vs, rfl, hs⟩ hus
      obtain ⟨q, vs', rfl, hvs'⟩ := exists_cons hus
      exact ⟨s, rfl, .mk (hs vs' hvs')⟩
    exact .path (head ts' hts') (hnext.many.exact_list tail hus')
  case reference =>
    intro ls ms ts lifetime mutable referent p name word type us hus
    obtain ⟨q, us', rfl, hus'⟩ := exists_cons hus
    obtain ⟨_, ts', rfl, hmarks, hts'⟩ := exists_append hus'
    obtain ⟨ls', ms', rfl, hls', hms'⟩ := exists_append hmarks
    refine .reference ?_ ((optionalWord_carries .mut).exact word hms') (type ts' hts')
    cases name with
    | absent =>
      rw [eq_nil hls']
      exact .absent
    | present =>
      obtain ⟨r, rfl⟩ := exists_singleton hls'
      exact .present
  case tuple =>
    intro ts elements types us hus
    exact .tuple ((carries_of_keeps.enclosed _ _).exact_list types hus)
  case array =>
    intro ts element length p q r s type us hus
    obtain ⟨p', us', rfl, hus'⟩ := exists_cons hus
    obtain ⟨ts', vs, rfl, hts', hvs⟩ := exists_append hus'
    obtain ⟨q', vs', rfl, hvs'⟩ := exists_cons hvs
    obtain ⟨r', ws, rfl, hws⟩ := exists_cons hvs'
    obtain ⟨s', rfl⟩ := exists_singleton hws
    exact .array (type ts' hts')
  case plain =>
    intro name p us hus
    obtain ⟨q, rfl⟩ := exists_singleton hus
    exact .plain
  case applied =>
    intro name ts arguments p list us hus
    obtain ⟨q, us', rfl, hus'⟩ := exists_cons hus
    exact .applied ((carries_of_keeps.enclosed _ _).exact_list list hus')
  case type => exact fun ts t h us hus => .type (h us hus)
  case lifetime =>
    intro name p us hus
    obtain ⟨q, rfl⟩ := exists_singleton hus
    exact .lifetime
  case const =>
    intro value p us hus
    obtain ⟨q, rfl⟩ := exists_singleton hus
    exact .const

theorem literalPhrase_keeps {ts : List Token} {token : AttrToken} (h : LiteralPhrase ts token) :
    Keeps LiteralPhrase ts token := by
  intro us hus
  cases h with
  | string =>
    obtain ⟨q, rfl⟩ := exists_singleton hus
    exact .string
  | number =>
    obtain ⟨q, rfl⟩ := exists_singleton hus
    exact .number

theorem attrTokenPhrase_keeps {ts : List Token} {token : AttrToken} (h : AttrTokenPhrase ts token) :
    Keeps AttrTokenPhrase ts token := by
  refine AttrTokenPhrase.induct (M := Keeps AttrTokenPhrase) ?word ?punct ?literal ?group h
  case word =>
    intro name p us hus
    obtain ⟨q, rfl⟩ := exists_singleton hus
    exact .word
  case punct =>
    intro symbol p free us hus
    obtain ⟨q, rfl⟩ := exists_singleton hus
    exact .punct free
  case literal => exact fun ts token h us hus => .literal (literalPhrase_keeps h us hus)
  case group =>
    intro ts tokens p q list us hus
    obtain ⟨p', us', rfl, hus'⟩ := exists_cons hus
    obtain ⟨ts', vs, rfl, hts', hvs⟩ := exists_append hus'
    obtain ⟨q', rfl⟩ := exists_singleton hvs
    exact .group (carries_of_keeps.many.exact_list list hts')

theorem inputPhrase_keeps {ts : List Token} {input : AttrInput} (h : InputPhrase ts input) :
    Keeps InputPhrase ts input := by
  intro us hus
  cases h with
  | bare =>
    rw [eq_nil hus]
    exact .bare
  | arguments list =>
    obtain ⟨p', us', rfl, hus'⟩ := exists_cons hus
    obtain ⟨ts', vs, rfl, hts', hvs⟩ := exists_append hus'
    obtain ⟨q', rfl⟩ := exists_singleton hvs
    have htokens : Carries AttrTokenPhrase AttrTokenPhrase id :=
      fun _ a us h hus => ⟨a, rfl, attrTokenPhrase_keeps h us hus⟩
    exact .arguments (htokens.many.exact_list list hts')
  | value literal =>
    obtain ⟨q, us', rfl, hus'⟩ := exists_cons hus
    exact .value (literalPhrase_keeps literal us' hus')

section Declarations

theorem attributePhrase_carries : Carries AttributePhrase AttributePhrase Attribute.bare := by
  intro ts a us h hus
  obtain ⟨names, inside⟩ := h
  obtain ⟨p, us₁, rfl, h₁⟩ := exists_cons hus
  obtain ⟨q, us₂, rfl, h₂⟩ := exists_cons h₁
  obtain ⟨r, us₃, rfl, h₃⟩ := exists_cons h₂
  obtain ⟨us₄, vs, rfl, h₄, hvs⟩ := exists_append h₃
  obtain ⟨ns', ts', rfl, hns', hts'⟩ := exists_append h₄
  obtain ⟨s, rfl⟩ := exists_singleton hvs
  have hnames : Carries NextName NextName id := by
    rintro _ name us ⟨_⟩ hus
    obtain ⟨q, us', rfl, hus'⟩ := exists_cons hus
    obtain ⟨r, rfl⟩ := exists_singleton hus'
    exact ⟨name, rfl, .mk⟩
  refine ⟨_, ?_, .mk (hnames.many.exact_list names hns') (inputPhrase_keeps inside ts' hts')⟩
  rfl

/-- The attributes and the visibility in front of a field or a declaration. -/
theorem marks_carry {as vs us : List Token} {annotations : List Attribute} {visible : Bool}
    (has : Many AttributePhrase as annotations) (hvs : OptionalWord .pub vs visible)
    (h : us.map Token.lexeme = (as ++ vs).map Token.lexeme) :
    ∃ as' vs' annotations', us = as' ++ vs' ∧ Many AttributePhrase as' annotations' ∧
      OptionalWord .pub vs' visible ∧
      annotations'.map Attribute.bare = annotations.map Attribute.bare := by
  obtain ⟨as', vs', rfl, has', hvs'⟩ := exists_append h
  obtain ⟨annotations', hsame, hmany⟩ := attributePhrase_carries.many _ _ _ has has'
  exact ⟨as', vs', annotations', rfl, hmany, (optionalWord_carries .pub).exact hvs hvs', hsame⟩

theorem namedFieldPhrase_carries : Carries NamedFieldPhrase NamedFieldPhrase Field.unplaced := by
  intro ts f us h hus
  obtain ⟨attributes, visibility, phrase⟩ := h
  obtain ⟨us₁, us₂, rfl, h₁, h₂⟩ := exists_append hus
  obtain ⟨as, vs, annotations, rfl, has, hvs, hsame⟩ := marks_carry attributes visibility h₁
  obtain ⟨p, us₃, rfl, h₃⟩ := exists_cons h₂
  obtain ⟨q, us₄, rfl, h₄⟩ := exists_cons h₃
  exact ⟨_, by simp [Field.unplaced, hsame], .mk has hvs (typePhrase_keeps phrase us₄ h₄)⟩

theorem tupleFieldPhrase_carries : Carries TupleFieldPhrase TupleFieldPhrase Field.unplaced := by
  intro ts f us h hus
  obtain ⟨attributes, visibility, phrase⟩ := h
  obtain ⟨us₁, us₂, rfl, h₁, h₂⟩ := exists_append hus
  obtain ⟨as, vs, annotations, rfl, has, hvs, hsame⟩ := marks_carry attributes visibility h₁
  exact ⟨_, by simp [Field.unplaced, hsame], .mk has hvs (typePhrase_keeps phrase us₂ h₂)⟩

theorem namedFields_carry : Carries (Enclosed .openBrace .closeBrace NamedFieldPhrase)
    (Enclosed .openBrace .closeBrace NamedFieldPhrase) (List.map Field.unplaced) :=
  namedFieldPhrase_carries.enclosed _ _

theorem tupleFields_carry : Carries (Enclosed .openParen .closeParen TupleFieldPhrase)
    (Enclosed .openParen .closeParen TupleFieldPhrase) (List.map Field.unplaced) :=
  tupleFieldPhrase_carries.enclosed _ _

theorem variantPhrase_carries : Carries VariantPhrase VariantPhrase id := by
  intro ts name us h hus
  obtain ⟨attributes, fields⟩ := h
  obtain ⟨as, us₁, rfl, has, h₁⟩ := exists_append hus
  obtain ⟨p, us₂, rfl, h₂⟩ := exists_cons h₁
  obtain ⟨annotations, _, hmany⟩ := attributePhrase_carries.many _ _ _ attributes has
  refine ⟨name, rfl, ?_⟩
  cases fields with
  | none =>
    rw [eq_nil h₂]
    exact .mk hmany .none
  | named list =>
    obtain ⟨fields', _, hlist⟩ := namedFields_carry _ _ _ list h₂
    exact .mk hmany (.named hlist)
  | tuple list =>
    obtain ⟨fields', _, hlist⟩ := tupleFields_carry _ _ _ list h₂
    exact .mk hmany (.tuple hlist)

theorem structFields_carry : Carries StructFields StructFields (List.map Field.unplaced) := by
  intro ts fields us h hus
  cases h with
  | named list =>
    obtain ⟨fields', hsame, hlist⟩ := namedFields_carry _ _ _ list hus
    exact ⟨fields', hsame, .named hlist⟩
  | tuple list =>
    obtain ⟨us₁, us₂, rfl, h₁, h₂⟩ := exists_append hus
    obtain ⟨p, rfl⟩ := exists_singleton h₂
    obtain ⟨fields', hsame, hlist⟩ := tupleFields_carry _ _ _ list h₁
    exact ⟨fields', hsame, .tuple hlist⟩
  | unit =>
    obtain ⟨p, rfl⟩ := exists_singleton hus
    exact ⟨[], rfl, .unit⟩

theorem bodyPhrase_carries {attributes attributes' : List Attribute} {ts us : List Token}
    {d : Declaration} (h : BodyPhrase attributes ts d)
    (hus : us.map Token.lexeme = ts.map Token.lexeme)
    (ha : attributes'.map Attribute.bare = attributes.map Attribute.bare) :
    ∃ d', d'.unplaced = d.unplaced ∧ BodyPhrase attributes' us d' := by
  cases h with
  | struct inside =>
    obtain ⟨p, us₁, rfl, h₁⟩ := exists_cons hus
    obtain ⟨q, us₂, rfl, h₂⟩ := exists_cons h₁
    obtain ⟨fields', hsame, hinside⟩ := structFields_carry _ _ _ inside h₂
    exact ⟨_, by simp [Declaration.unplaced, ha, hsame], .struct hinside⟩
  | union inside =>
    obtain ⟨p, us₁, rfl, h₁⟩ := exists_cons hus
    obtain ⟨q, us₂, rfl, h₂⟩ := exists_cons h₁
    obtain ⟨fields', hsame, hinside⟩ := namedFields_carry _ _ _ inside h₂
    exact ⟨_, by simp [Declaration.unplaced, ha, hsame], .union hinside⟩
  | enum inside =>
    obtain ⟨p, us₁, rfl, h₁⟩ := exists_cons hus
    obtain ⟨q, us₂, rfl, h₂⟩ := exists_cons h₁
    have hinside := (variantPhrase_carries.enclosed _ _).exact_list inside h₂
    exact ⟨_, by simp [Declaration.unplaced, ha], .enum hinside⟩

theorem declarationPhrase_carries :
    Carries DeclarationPhrase DeclarationPhrase Declaration.unplaced := by
  intro ts d us h hus
  obtain ⟨list, visibility, body⟩ := h
  obtain ⟨us₁, us₂, rfl, h₁, h₂⟩ := exists_append hus
  obtain ⟨as, vs, attributes, rfl, has, hvs, hsame⟩ := marks_carry list visibility h₁
  obtain ⟨d', hd, hbody⟩ := bodyPhrase_carries body h₂ hsame
  exact ⟨d', hd, .mk has hvs hbody⟩

/-- Tokens with the same lexemes derive the same declarations, apart from their places. -/
theorem start_carries : Carries Start Start (List.map Declaration.unplaced) :=
  declarationPhrase_carries.many

end Declarations

end Grammar
end RecordBuilders.Syntax
