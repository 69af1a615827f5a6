import RecordBuilders.Proofs.Syntax.SourceGrammar
import RecordBuilders.Proofs.Syntax.TreeMeaning

/-! Every phrase has a tree, so a text is read exactly if there is a tree for its tokens, and then
as what is built from the tree. -/
namespace RecordBuilders.Syntax.Concrete
open Text Grammar

/-- Some trees stand for the tokens. -/
def Derivable (p : Pattern) (ts : List Token) : Prop := ∃ xs, Matches Derives p ts xs

namespace Derivable
variable {p : Pattern} {ps : List Pattern} {ts us : List Token}

theorem rule (r : Rule) (h : Derivable (production r) ts) : Derivable (.rule r) ts := by
  obtain ⟨xs, hx⟩ := h
  exact ⟨_, .rule (.mk hx)⟩

theorem nil : Derivable (.sequence []) [] := ⟨[], .nothing⟩

theorem cons (h : Derivable p ts) (hs : Derivable (.sequence ps) us) :
    Derivable (.sequence (p :: ps)) (ts ++ us) := by
  obtain ⟨xs, hx⟩ := h
  obtain ⟨ys, hy⟩ := hs
  exact ⟨xs ++ ys, .seq hx hy⟩

theorem single (h : Derivable p ts) : Derivable (.sequence [p]) ts := by
  simpa using h.cons nil

theorem word {k : Keyword} {position : Position} (hs : Derivable (.sequence ps) us) :
    Derivable (.sequence (.word k :: ps)) (⟨.keyword k, position⟩ :: us) :=
  @cons _ _ [_] us ⟨[], .quoted⟩ hs

theorem mark {s : Symbol} {position : Position} (hs : Derivable (.sequence ps) us) :
    Derivable (.sequence (.mark s :: ps)) (⟨.symbol s, position⟩ :: us) :=
  @cons _ _ [_] us ⟨[], .quoted⟩ hs

theorem token (kind : TokenClass) (text : String) (position : Position) :
    Derivable (.token kind) [⟨kind.lexeme text, position⟩] :=
  ⟨_, .token⟩

theorem name {text : String} {position : Position} (hs : Derivable (.sequence ps) us) :
    Derivable (.sequence (.token .name :: ps)) (⟨.name text, position⟩ :: us) :=
  (token .name text position).cons hs

theorem maybe (h : Derivable p ts) : Derivable (.maybe p) ts := by
  obtain ⟨xs, hx⟩ := h
  exact ⟨xs, .left hx⟩

theorem absent : Derivable (.maybe p) [] := ⟨[], .right .nothing⟩

/-- One way of several, if it is a rule of its own. -/
theorem oneOf (r : Rule) (hr : .rule r ∈ ps) (h : Derivable (production r) ts) :
    Derivable (.oneOf ps) ts := by
  obtain ⟨xs, hx⟩ := rule r h
  exact ⟨xs, matches_oneOf.mpr ⟨.rule r, hr, hx⟩⟩

end Derivable

section Lists
variable {α : Type} {P : List Token → α → Prop} {p : Pattern} {us : List Token} {as : List α}

theorem derivable_many (h : Many P us as) (hp : ∀ vs a, P vs a → Derivable p vs) :
    Derivable (.many p) us := by
  induction h with
  | nil => exact ⟨[], .manyNil⟩
  | cons head _ ih =>
    obtain ⟨xs, hx⟩ := hp _ _ head
    obtain ⟨ys, hy⟩ := ih
    exact ⟨xs ++ ys, .manyCons hx hy⟩

theorem derivable_commaItems (h : CommaItems P us as) (hp : ∀ vs a, P vs a → Derivable p vs) :
    Derivable (.sequence [p, .many (.sequence [.mark .comma, p]), .maybe (.mark .comma)]) us := by
  induction h with
  | last head =>
    have hnone : Derivable (.many (.sequence [.mark .comma, p])) [] := ⟨[], .manyNil⟩
    simpa using (hp _ _ head).cons (hnone.cons (Derivable.single .absent))
  | @lastComma ts _ q head =>
    have hnone : Derivable (.many (.sequence [.mark .comma, p])) [] := ⟨[], .manyNil⟩
    have hcomma : Derivable (.maybe (.mark .comma)) [⟨.symbol .comma, q⟩] :=
      Derivable.maybe ⟨[], .quoted⟩
    simpa using (hp _ _ head).cons (hnone.cons hcomma.single)
  | @cons ts us _ _ q head _ ih =>
    obtain ⟨xs, hx⟩ := ih
    obtain ⟨us, vs, xs, ys, rfl, rfl, hfirst, hrest⟩ := matches_sequence_cons.mp hx
    obtain ⟨vs, ws, ys, zs, rfl, rfl, hmore, hlast⟩ := matches_sequence_cons.mp hrest
    obtain ⟨item, hitem⟩ : Derivable (.sequence [.mark .comma, p]) (⟨.symbol .comma, q⟩ :: us) :=
      .mark (Derivable.single ⟨xs, hfirst⟩)
    have hmany : Derivable (.many (.sequence [.mark .comma, p]))
        (⟨.symbol .comma, q⟩ :: us ++ vs) := ⟨item ++ ys, .manyCons hitem hmore⟩
    simpa using (hp _ _ head).cons (hmany.cons ⟨zs, hlast⟩)

theorem derivable_enclosed {opening closing : Symbol} (h : Enclosed opening closing P us as)
    (hp : ∀ vs a, P vs a → Derivable p vs) : Derivable (.enclosed opening closing p) us := by
  cases h with
  | empty => exact .mark (Derivable.absent.cons (.mark .nil))
  | items items => exact .mark ((derivable_commaItems items hp).maybe.cons (.mark .nil))

end Lists

theorem derivable_type {ts : List Token} {t : TypeExpr} (h : TypePhrase ts t) :
    Derivable (.rule .typeExpr) ts := by
  refine TypePhrase.induct (M := fun ts _ => Derivable (.rule .typeExpr) ts)
    (S := fun ts _ => Derivable (.rule .pathSegment) ts)
    (A := fun ts _ => Derivable (.rule .genericArg) ts)
    ?path ?reference ?tuple ?array ?plain ?applied ?type ?lifetime ?const h
  case path =>
    intro ts us first others hfirst hothers
    have htail : Derivable (.many (.sequence [.mark .pathSep, .rule .pathSegment])) us := by
      apply derivable_many hothers
      rintro _ s ⟨p, vs, rfl, hs⟩
      exact .mark hs.single
    exact .rule .typeExpr (.oneOf .pathType (by simp) (hfirst.cons htail.single))
  case reference =>
    intro ls ms ts lifetime mutable referent p name word htype
    have hname : Derivable (.maybe (.token .lifetime)) ls := by
      cases name with
      | absent => exact .absent
      | present => exact (Derivable.token .lifetime _ _).maybe
    have hword : Derivable (.maybe (.rule .mutable)) ms := by
      cases word with
      | absent => exact .absent
      | present => exact (Derivable.rule .mutable ⟨[], .quoted⟩).maybe
    have hmarked := hname.cons (hword.cons htype.single)
    rw [List.append_assoc]
    exact .rule .typeExpr (.oneOf .refType (by simp) (.mark hmarked))
  case tuple =>
    intro ts elements types
    have htypes := derivable_enclosed types fun _ _ htype => htype
    exact .rule .typeExpr (.oneOf .tupleType (by simp) htypes)
  case array =>
    intro ts element length p q r s htype
    have hlength := Derivable.token .number length r
    exact .rule .typeExpr (.oneOf .arrayType (by simp)
      (.mark (htype.cons (.mark (hlength.cons (.mark .nil))))))
  case plain => exact fun name p => .rule .pathSegment (.name (Derivable.single .absent))
  case applied =>
    intro name ts arguments p list
    have hlist := derivable_enclosed list fun _ _ hargument => hargument
    exact .rule .pathSegment (.name (Derivable.rule .genericArgs hlist).maybe.single)
  case type => exact fun ts t htype => .rule .genericArg (.oneOf .typeArg (by simp) htype)
  case lifetime =>
    exact fun name p => .rule .genericArg (.oneOf .lifetimeArg (by simp) (.token .lifetime _ _))
  case const =>
    exact fun value p => .rule .genericArg (.oneOf .constArg (by simp) (.token .number _ _))

section Attributes

theorem derivable_literal {ts : List Token} {token : AttrToken} (h : LiteralPhrase ts token) :
    Derivable (production .attrLiteral) ts := by
  cases h with
  | string => exact ⟨_, .left .token⟩
  | number => exact ⟨_, .right (.left .token)⟩

theorem derivable_punctuation {symbol : Symbol} {position : Position}
    (free : symbol ∉ [.openBrace, .closeBrace, .openParen, .closeParen]) :
    Derivable (production .attrPunct) [⟨.symbol symbol, position⟩] := by
  have hmem : symbol ∈ punctuation := by
    cases symbol with
    | openBrace | closeBrace | openParen | closeParen => simp at free
    | _ => decide
  exact ⟨_, matches_oneOf.mpr ⟨.kept symbol, List.mem_map_of_mem hmem, .kept⟩⟩

theorem derivable_attrToken {ts : List Token} {token : AttrToken} (h : AttrTokenPhrase ts token) :
    Derivable (.rule .attrToken) ts := by
  refine AttrTokenPhrase.induct (M := fun ts _ => Derivable (.rule .attrToken) ts)
    ?word ?punct ?literal ?group h
  case word =>
    exact fun name p => .rule .attrToken (.oneOf .attrIdent (by simp) (.token .name _ _))
  case punct =>
    intro symbol p free
    exact .rule .attrToken (.oneOf .attrPunct (by simp) (derivable_punctuation free))
  case literal =>
    intro ts token literal
    exact .rule .attrToken (.oneOf .attrLiteral (by simp) (derivable_literal literal))
  case group =>
    intro ts tokens p q list
    have htokens := derivable_many list fun _ _ htoken => htoken
    exact .rule .attrToken (.oneOf .attrGroup (by simp) (.mark (htokens.cons (.mark .nil))))

theorem derivable_arguments {ts : List Token} {tokens : List AttrToken}
    (h : Many AttrTokenPhrase ts tokens) : Derivable (.many (.rule .attrToken)) ts :=
  derivable_many h fun _ _ => derivable_attrToken

theorem derivable_input {ts : List Token} {input : AttrInput} (h : InputPhrase ts input) :
    Derivable (.maybe (.rule .attrInput)) ts := by
  cases h with
  | bare => exact .absent
  | arguments list =>
    apply Derivable.maybe
    have hlist := derivable_arguments list
    exact .rule .attrInput (.oneOf .attrArgs (by simp) (.mark (hlist.cons (.mark .nil))))
  | value literal =>
    apply Derivable.maybe
    have hliteral := Derivable.rule .attrLiteral (derivable_literal literal)
    exact .rule .attrInput (.oneOf .attrValue (by simp) (.mark hliteral.single))

theorem derivable_attribute {ts : List Token} {a : Attribute} (h : AttributePhrase ts a) :
    Derivable (.rule .outerAttr) ts := by
  obtain @⟨ns, ts, first, others, input, p, q, r, s, names, inside⟩ := h
  have hnames : Derivable (.many (.sequence [.mark .pathSep, .token .name])) ns := by
    apply derivable_many names
    rintro _ name ⟨⟩
    exact .mark (Derivable.token .name _ _).single
  have hpath : Derivable (.rule .attrPath) (⟨.name first, r⟩ :: ns) :=
    .rule .attrPath (.name hnames.single)
  have hinput := derivable_input inside
  rw [List.append_assoc]
  exact .rule .outerAttr (.mark (.mark (hpath.cons (hinput.cons (.mark .nil)))))

theorem derivable_attributes {ts : List Token} {annotations : List Attribute}
    (h : Many AttributePhrase ts annotations) : Derivable (.many (.rule .outerAttr)) ts :=
  derivable_many h fun _ _ => derivable_attribute

end Attributes

section Declarations
variable {ts : List Token}

theorem derivable_vis {visible : Bool} (h : OptionalWord .pub ts visible) :
    Derivable (.maybe (.rule .vis)) ts := by
  cases h with
  | absent => exact .absent
  | present => exact (Derivable.rule .vis ⟨[], .quoted⟩).maybe

theorem derivable_namedField {f : Field} (h : NamedFieldPhrase ts f) :
    Derivable (.rule .namedField) ts := by
  obtain ⟨has, hvs, hts⟩ := h
  have hfield := (derivable_type hts).single
  rw [List.append_assoc]
  exact .rule .namedField
    ((derivable_attributes has).cons ((derivable_vis hvs).cons (.name (.mark hfield))))

theorem derivable_tupleField {f : Field} (h : TupleFieldPhrase ts f) :
    Derivable (.rule .tupleField) ts := by
  obtain ⟨has, hvs, hts⟩ := h
  rw [List.append_assoc]
  exact .rule .tupleField
    ((derivable_attributes has).cons ((derivable_vis hvs).cons (derivable_type hts).single))

theorem derivable_namedFields {fields : List Field}
    (h : Enclosed .openBrace .closeBrace NamedFieldPhrase ts fields) :
    Derivable (.rule .namedFields) ts :=
  .rule .namedFields (derivable_enclosed h fun _ _ => derivable_namedField)

theorem derivable_tupleFields {fields : List Field}
    (h : Enclosed .openParen .closeParen TupleFieldPhrase ts fields) :
    Derivable (.rule .tupleFields) ts :=
  .rule .tupleFields (derivable_enclosed h fun _ _ => derivable_tupleField)

theorem derivable_variantFields {fields : List Field} (h : VariantFields ts fields) :
    Derivable (.maybe (.oneOf [.rule .namedFields, .rule .tupleFields])) ts := by
  cases h with
  | none => exact .absent
  | named list =>
    obtain ⟨xs, hx⟩ := derivable_namedFields list
    exact Derivable.maybe ⟨xs, .left hx⟩
  | tuple list =>
    obtain ⟨xs, hx⟩ := derivable_tupleFields list
    exact Derivable.maybe ⟨xs, .right (.left hx)⟩

theorem derivable_variant {name : String} (h : VariantPhrase ts name) :
    Derivable (.rule .variant) ts := by
  obtain ⟨has, hfields⟩ := h
  have hinside := derivable_variantFields hfields
  exact .rule .variant ((derivable_attributes has).cons (.name hinside.single))

theorem derivable_body {attributes : List Attribute} {d : Declaration}
    (h : BodyPhrase attributes ts d) : Derivable (.rule .declBody) ts := by
  apply Derivable.rule
  cases h with
  | struct inside =>
    cases inside with
    | named list =>
      exact .oneOf .structNamed (by simp) (.word (.name (derivable_namedFields list).single))
    | tuple list =>
      exact .oneOf .structTuple (by simp)
        (.word (.name ((derivable_tupleFields list).cons (.mark .nil))))
    | unit => exact .oneOf .structUnit (by simp) (.word (.name (.mark .nil)))
  | union inside =>
    exact .oneOf .unionDecl (by simp) (.word (.name (derivable_namedFields inside).single))
  | enum inside =>
    have hvariants := derivable_enclosed inside fun _ _ => derivable_variant
    exact .oneOf .enumDecl (by simp) (.word (.name hvariants.single))

theorem derivable_declaration {d : Declaration} (h : DeclarationPhrase ts d) :
    Derivable (.rule .declaration) ts := by
  obtain ⟨has, hvs, body⟩ := h
  rw [List.append_assoc]
  exact .rule .declaration
    ((derivable_attributes has).cons ((derivable_vis hvs).cons (derivable_body body).single))

/-- The tokens of declarations have a tree. -/
theorem exists_derives_of_start {ds : List Declaration} (h : Start ts ds) :
    ∃ t, Derives .start ts [t] := by
  obtain ⟨xs, hx⟩ := derivable_many h fun _ _ => derivable_declaration
  exact ⟨_, .mk hx⟩

end Declarations

section Texts
variable {source : String} {t : Tree} {ds : List Declaration}

/-- The tree stands for the text. -/
def IsTreeOf (source : String) (t : Tree) : Prop :=
  ∃ tokens, Splits {} source.toList tokens ∧ Derives .start tokens [t]

/-- What a text is read as is built from each of its trees. -/
theorem parse_of_isTreeOf (h : IsTreeOf source t) :
    ∃ ds, buildDeclarations t = .ok ds ∧ parse source = .ok ds := by
  obtain ⟨tokens, hsplits, hderives⟩ := h
  obtain ⟨u, ds, hu, hb, hs⟩ := exists_start_of_derives hderives
  cases hu
  exact ⟨ds, hb, parse_eq_ok_iff.mpr ⟨tokens, hsplits, hs⟩⟩

theorem exists_isTreeOf_of_parse (h : parse source = .ok ds) : ∃ t, IsTreeOf source t := by
  obtain ⟨tokens, hsplits, hstart⟩ := parse_eq_ok_iff.mp h
  obtain ⟨t, ht⟩ := exists_derives_of_start hstart
  exact ⟨t, tokens, hsplits, ht⟩

theorem parse_eq_ok_iff_build :
    parse source = .ok ds ↔ ∃ t, IsTreeOf source t ∧ buildDeclarations t = .ok ds := by
  constructor
  · intro h
    obtain ⟨t, ht⟩ := exists_isTreeOf_of_parse h
    obtain ⟨ds', hb, hp⟩ := parse_of_isTreeOf ht
    cases h.symm.trans hp
    exact ⟨t, ht, hb⟩
  · rintro ⟨t, ht, hb⟩
    obtain ⟨ds', hb', hp⟩ := parse_of_isTreeOf ht
    cases hb.symm.trans hb'
    exact hp

end Texts

end RecordBuilders.Syntax.Concrete
