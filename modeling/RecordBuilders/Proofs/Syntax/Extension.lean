import RecordBuilders.Proofs.Syntax.Spelling

/-! What a failing parser has taken. Main result: the tokens up to the one at which declarations
cannot go on are the beginning of declarations. -/
namespace RecordBuilders.Syntax.Parser
open Text Grammar

variable {α β : Type}

/-- The tokens of something. -/
def IsPhrase (P : List Token → α → Prop) (ts : List Token) : Prop := ∃ a, P ts a

/-- Some tokens, which a text may have, complete the given ones. -/
def Begun (S : List Token → Prop) (ts : List Token) : Prop :=
  ∃ more, AllGenuine more ∧ S (ts ++ more)

/-- There is something to be read, and a failing parser has taken off the beginning of it. -/
structure Extends (p : Parser α) (S : List Token → Prop) : Prop where
  begun : Begun S []
  error : ∀ tokens left, p tokens = .error left → ∃ used, tokens = used ++ left ∧ Begun S used

section Begun
variable {S R : List Token → Prop} {us vs : List Token}

theorem begun_of (h : S us) : Begun S us := ⟨[], by simp [AllGenuine], by simpa using h⟩

theorem begun_token {l : Lexeme} (hl : l.Genuine) (h : ∀ p, S [⟨l, p⟩]) : Begun S [] :=
  ⟨[⟨l, {}⟩], by simpa [AllGenuine] using hl, h {}⟩

theorem Begun.imp (h : Begun R us) (hs : ∀ ts, R ts → S ts) : Begun S us := by
  obtain ⟨more, hg, h⟩ := h
  exact ⟨more, hg, hs _ h⟩

theorem Begun.append (h : Begun (fun ts => S (us ++ ts)) vs) : Begun S (us ++ vs) := by
  obtain ⟨more, hg, h⟩ := h
  exact ⟨more, hg, by rwa [List.append_assoc]⟩

theorem Begun.cons {t : Token} (h : Begun (fun ts => S (t :: ts)) us) : Begun S (t :: us) := h

/-- What completes the first part can be followed by what completes the whole. -/
theorem Begun.trans {P : List Token → α → Prop} (h : Begun (IsPhrase P) us)
    (hs : ∀ us a, P us a → Begun (fun vs => S (us ++ vs)) []) : Begun S us := by
  obtain ⟨more, hg, a, ha⟩ := h
  obtain ⟨behind, hg', hs⟩ := hs _ a ha
  exact ⟨more ++ behind, List.forall_mem_append.mpr ⟨hg, hg'⟩, by simpa using hs⟩

end Begun

theorem genuine_name : (Lexeme.name "a").Genuine := genuine_letter rfl rfl

theorem genuine_number : (Lexeme.number "0").Genuine := Terminal.number (by decide) (by simp)

namespace Extends
variable {p : Parser α} {P : List Token → α → Prop} {S R : List Token → Prop}

theorem pure {a : α} (h : S []) : Extends (Pure.pure a : Parser α) S :=
  ⟨begun_of h, fun _ _ hr => by cases hr⟩

theorem fail (h : Begun S []) : Extends (fail : Parser α) S := by
  refine ⟨h, ?_⟩
  intro tokens left hr
  cases hr
  exact ⟨[], rfl, h⟩

theorem imp (hp : Extends p R) (h : ∀ ts, R ts → S ts) : Extends p S := by
  refine ⟨hp.begun.imp h, ?_⟩
  intro tokens left hr
  obtain ⟨used, htokens, hused⟩ := hp.error tokens left hr
  exact ⟨used, htokens, hused.imp h⟩

/-- Where the first parser fails, its phrase can be completed, and then the whole. -/
theorem bind {q : α → Parser β} (hs : Sound p P) (hp : Extends p (IsPhrase P))
    (hq : ∀ us a, P us a → Extends (q a) fun vs => S (us ++ vs)) : Extends (p >>= q) S := by
  have hbegun : ∀ us a, P us a → Begun (fun vs => S (us ++ vs)) [] :=
    fun us a ha => (hq us a ha).begun
  refine ⟨hp.begun.trans hbegun, ?_⟩
  intro tokens left hr
  cases hpr : p tokens with
  | error e =>
    have he : (p >>= q) tokens = .error e := by simp [Bind.bind, StateT.bind, Except.bind, hpr]
    cases he.symm.trans hr
    obtain ⟨used, htokens, hused⟩ := hp.error tokens left hpr
    exact ⟨used, htokens, hused.trans hbegun⟩
  | ok found =>
    obtain ⟨a, mid⟩ := found
    rw [bind_eq hpr] at hr
    obtain ⟨us, rfl, hus⟩ := hs tokens a mid hpr
    obtain ⟨vs, rfl, hvs⟩ := (hq us a hus).error mid left hr
    exact ⟨us ++ vs, by simp, hvs.append⟩

theorem map {f : α → β} (hp : Extends p S) : Extends (f <$> p) S := by
  refine ⟨hp.begun, ?_⟩
  intro tokens left hr
  cases hpr : p tokens with
  | error e =>
    rw [map_eq_pure_bind] at hr
    have he : (p >>= fun a => Pure.pure (f a)) tokens = .error e := by
      simp [Bind.bind, StateT.bind, Except.bind, hpr]
    cases he.symm.trans hr
    exact hp.error tokens left hpr
  | ok found =>
    cases (map_eq hpr).symm.trans hr

theorem here_bind {q : Option Position → Parser β} (hq : ∀ location, Extends (q location) S) :
    Extends (here >>= q) S := by
  refine ⟨(hq none).begun, ?_⟩
  intro tokens left hr
  exact (hq (tokens.head?.map Token.position)).error tokens left hr

theorem choose {rule : Lexeme → Option (Parser α)} {otherwise : Parser α}
    (hrule : ∀ lexeme position k, rule lexeme = some k →
      Extends k fun ts => S (⟨lexeme, position⟩ :: ts))
    (ho : Extends otherwise S) : Extends (choose rule otherwise) S := by
  refine ⟨ho.begun, ?_⟩
  intro tokens left hr
  cases tokens with
  | nil => exact ho.error [] left hr
  | cons token tokens =>
    cases hk : rule token.lexeme with
    | none =>
      simp only [Parser.choose, hk] at hr
      exact ho.error (token :: tokens) left hr
    | some k =>
      simp only [Parser.choose, hk] at hr
      obtain ⟨used, rfl, hused⟩ :=
        (hrule token.lexeme token.position k hk).error tokens left hr
      exact ⟨token :: used, rfl, hused.cons⟩

theorem branch {rule : Lexeme → Option (Parser α)}
    (hrule : ∀ lexeme position k, rule lexeme = some k →
      Extends k fun ts => S (⟨lexeme, position⟩ :: ts))
    (hb : Begun S []) : Extends (branch rule) S :=
  choose hrule (fail hb)

section Tokens

theorem expect {s : Symbol} (hs : ∀ position, S [⟨.symbol s, position⟩]) :
    Extends (expect (.symbol s)) S := by
  refine branch ?_ (begun_token (Lexeme.genuine_symbol s) hs)
  intro found position k hk
  split at hk
  · next he =>
    cases hk
    exact pure (he ▸ hs position)
  · cases hk

theorem expect_bind {q : Parser β} {s : Symbol}
    (hq : ∀ position, Extends q fun ts => S (⟨.symbol s, position⟩ :: ts)) :
    Extends (Parser.expect (.symbol s) >>= fun _ => q) S := by
  refine bind (Sound.expect _) (expect fun position => ⟨(), position, rfl⟩) fun us _ hus => ?_
  obtain ⟨position, rfl⟩ := hus
  exact hq position

theorem name (hs : ∀ name position, S [⟨.name name, position⟩]) : Extends Parser.name S := by
  refine branch ?_ (begun_token genuine_name (hs "a"))
  intro lexeme position k hk
  cases lexeme with
  | name text =>
    cases hk
    exact pure (hs text position)
  | _ => cases hk

theorem name_bind {q : String → Parser β}
    (hq : ∀ name position, Extends (q name) fun ts => S (⟨.name name, position⟩ :: ts)) :
    Extends (Parser.name >>= q) S := by
  refine bind Sound.name (name fun text position => ⟨text, position, rfl⟩) fun us text hus => ?_
  obtain ⟨position, rfl⟩ := hus
  exact hq text position

theorem number_bind {q : String → Parser β}
    (hq : ∀ number position, Extends (q number) fun ts => S (⟨.number number, position⟩ :: ts)) :
    Extends (Parser.number >>= q) S := by
  refine bind Sound.number (branch ?_ ?_) fun us number hus => ?_
  · intro lexeme position k hk
    cases lexeme with
    | number text =>
      cases hk
      exact pure ⟨text, position, rfl⟩
    | _ => cases hk
  · exact begun_token genuine_number fun position => ⟨"0", position, rfl⟩
  · obtain ⟨position, rfl⟩ := hus
    exact hq number position

/-- An optional token is never what a parser fails at. -/
theorem optional_bind {lexeme : Lexeme} {q : Bool → Parser β}
    (hfound : ∀ position, Extends (q true) fun ts => S (⟨lexeme, position⟩ :: ts))
    (hmissing : Extends (q false) S) : Extends (optional lexeme >>= q) S := by
  refine ⟨hmissing.begun, ?_⟩
  intro tokens left hr
  cases tokens with
  | nil => exact hmissing.error [] left hr
  | cons token tokens =>
    by_cases he : token.lexeme = lexeme
    · subst he
      rw [bind_eq (a := true) (r := tokens) optional_cons] at hr
      obtain ⟨used, rfl, hused⟩ := (hfound token.position).error tokens left hr
      exact ⟨token :: used, rfl, hused.cons⟩
    · rw [bind_eq (optional_eq (stops_cons.mpr (by simpa using he)))] at hr
      exact hmissing.error _ left hr

end Tokens

section Repeated
variable (hs : Sound p P) (hp : Extends p (IsPhrase P))
include hs hp

theorem manyUpTo (lead : Lexeme) (bound : Nat) :
    Extends (manyUpTo lead p bound) (IsPhrase (Many P)) := by
  induction bound with
  | zero => exact pure ⟨[], .nil⟩
  | succ bound ih =>
    have hmore : Extends (do return (← p) :: (← Parser.manyUpTo lead p bound))
        (IsPhrase (Many P)) := by
      refine bind hs hp fun us a hus => bind (hs.manyUpTo lead bound) ih fun vs as hvs => pure ?_
      rw [List.append_nil]
      exact ⟨_, .cons hus hvs⟩
    refine ⟨begun_of ⟨[], .nil⟩, ?_⟩
    intro tokens left hr
    unfold Parser.manyUpTo at hr
    split at hr
    · exact hmore.error tokens left hr
    · cases hr

theorem many (lead : Lexeme) : Extends (many lead p) (IsPhrase (Many P)) :=
  ⟨begun_of ⟨[], .nil⟩, fun tokens => (manyUpTo hs hp lead tokens.length).error tokens⟩

/-- The items, and the symbol that closes their list. -/
def ClosedItems (close : Symbol) (P : List Token → α → Prop) (ts : List Token)
    (as : List α) : Prop :=
  ∃ us position, ts = us ++ [⟨.symbol close, position⟩] ∧ CommaItems P us as

theorem commaItemsUpTo (close : Symbol) (bound : Nat) :
    Extends (commaItemsUpTo (.symbol close) p bound) (IsPhrase (ClosedItems close P)) := by
  have hone {us : List Token} {a : α} (ha : P us a) (position : Position) :
      IsPhrase (ClosedItems close P) (us ++ [⟨.symbol close, position⟩]) :=
    ⟨[a], us, position, rfl, .last ha⟩
  induction bound with
  | zero =>
    exact fail (hp.begun.trans fun us a ha => begun_token (Lexeme.genuine_symbol close) (hone ha))
  | succ bound ih =>
    refine bind hs hp fun us a hus => optional_bind (fun r => ?_)
      (expect_bind fun q => pure (hone hus q))
    refine optional_bind (fun q => pure ?_) ?_
    · exact ⟨[a], us ++ [⟨comma, r⟩], q, by simp, .lastComma hus⟩
    · refine bind (hs.commaItemsUpTo close bound) ih fun vs as hvs => pure ?_
      obtain ⟨ws, q, rfl, hws⟩ := hvs
      exact ⟨a :: as, us ++ ⟨comma, r⟩ :: ws, q, by simp, .cons hus hws⟩

/-- The opening symbol was taken off before. -/
theorem commaList (opening close : Symbol) (position : Position) :
    Extends (commaList (.symbol close) p)
      fun ts => IsPhrase (Enclosed opening close P) (⟨.symbol opening, position⟩ :: ts) := by
  refine optional_bind (fun q => pure ⟨[], .empty⟩) ?_
  have hitems (tokens : List Token) := commaItemsUpTo hs hp close tokens.length
  have hclosed : ∀ ts, IsPhrase (ClosedItems close P) ts →
      IsPhrase (Enclosed opening close P) (⟨.symbol opening, position⟩ :: ts) := by
    rintro _ ⟨as, us, q, rfl, hus⟩
    exact ⟨as, .items hus⟩
  exact ⟨((hitems []).imp hclosed).begun, fun tokens => ((hitems tokens).imp hclosed).error tokens⟩

end Repeated

end Extends

section Types
variable {type : Parser TypeExpr}

theorem genericArg_extends (ht : Extends type (IsPhrase TypePhrase)) :
    Extends (genericArg type) (IsPhrase ArgumentPhrase) := by
  refine Extends.choose ?_ (ht.map.imp fun ts => ?_)
  · intro lexeme position k hk
    cases lexeme with
    | lifetime name =>
      cases hk
      exact .pure ⟨_, .lifetime⟩
    | number value =>
      cases hk
      exact .pure ⟨_, .const⟩
    | _ => cases hk
  · rintro ⟨t, h⟩
    exact ⟨_, .type h⟩

variable (hs : Sound type TypePhrase) (ht : Extends type (IsPhrase TypePhrase))
include hs ht

theorem segment_extends (name : String) (p : Position) :
    Extends (segment type name) fun ts => IsPhrase SegmentPhrase (⟨.name name, p⟩ :: ts) := by
  refine Extends.choose ?_ (.pure ⟨_, .plain⟩)
  intro lexeme position k hk
  cases lexeme with
  | symbol symbol =>
    cases symbol with
    | less =>
      cases hk
      have harguments := Extends.commaList (genericArg_sound hs) (genericArg_extends ht) .less
        .greater position
      refine harguments.map.imp fun ts => ?_
      rintro ⟨as, h⟩
      exact ⟨_, .applied h⟩
    | _ => cases hk
  | _ => cases hk

theorem nextSegment_extends :
    Extends (do expect (.symbol .pathSep); segment type (← name)) (IsPhrase NextSegment) := by
  refine Extends.expect_bind fun p => Extends.name_bind fun name q => ?_
  refine (segment_extends hs ht name q).imp fun ts => ?_
  rintro ⟨s, h⟩
  exact ⟨s, .mk h⟩

theorem path_extends (first : String) (p : Position) :
    Extends (path type first) fun ts => IsPhrase TypePhrase (⟨.name first, p⟩ :: ts) := by
  refine Extends.bind (segment_sound hs first p) (segment_extends hs ht first p) fun us s hus => ?_
  have hnext := nextSegment_sound hs
  refine Extends.bind (hnext.many _) (.many hnext (nextSegment_extends hs ht) _) fun vs ss hvs =>
    .pure ?_
  rw [List.append_nil, ← List.cons_append]
  exact ⟨_, .path hus hvs⟩

theorem reference_extends (p : Position) :
    Extends (reference type) fun ts => IsPhrase TypePhrase (⟨.symbol .ampersand, p⟩ :: ts) := by
  refine Extends.bind optionalLifetime_sound (Extends.choose ?_ (.pure ⟨none, .absent⟩))
    fun ls lifetime hl => ?_
  · intro lexeme position k hk
    cases lexeme with
    | lifetime name =>
      cases hk
      exact .pure ⟨_, .present⟩
    | _ => cases hk
  · refine Extends.optional_bind (fun q => ?_) ?_
    · refine Extends.bind hs ht fun ts t hts => .pure ⟨.reference lifetime true t, ?_⟩
      have h := TypePhrase.reference (p := p) hl (.present (p := q)) hts
      simpa using h
    · refine Extends.bind hs ht fun ts t hts => .pure ⟨.reference lifetime false t, ?_⟩
      have h := TypePhrase.reference (p := p) hl .absent hts
      simpa using h

theorem array_extends (p : Position) :
    Extends (array type) fun ts => IsPhrase TypePhrase (⟨.symbol .openBracket, p⟩ :: ts) := by
  refine Extends.bind hs ht fun us t hus => Extends.expect_bind fun q => ?_
  refine Extends.number_bind fun length r => Extends.expect_bind fun s => .pure ?_
  exact ⟨_, .array hus⟩

end Types

theorem begun_type : Begun (IsPhrase TypePhrase) [] := by
  refine begun_token genuine_name fun p => ⟨.path [.plain "a"], ?_⟩
  have h : TypePhrase ([⟨.name "a", p⟩] ++ []) (.path [.plain "a"]) := .path .plain .nil
  rwa [List.append_nil] at h

theorem typeUpTo_extends (depth : Nat) : Extends (typeUpTo depth) (IsPhrase TypePhrase) := by
  induction depth with
  | zero => exact .fail begun_type
  | succ depth ih =>
    have hs := typeUpTo_sound depth
    refine Extends.branch ?_ begun_type
    intro lexeme position k hk
    cases lexeme with
    | name first =>
      cases hk
      exact path_extends hs ih first position
    | symbol symbol =>
      cases symbol with
      | ampersand =>
        cases hk
        exact reference_extends hs ih position
      | openParen =>
        cases hk
        refine (Extends.commaList hs ih .openParen .closeParen position).map.imp fun ts => ?_
        rintro ⟨types, h⟩
        exact ⟨_, .tuple h⟩
      | openBracket =>
        cases hk
        exact array_extends hs ih position
      | _ => cases hk
    | _ => cases hk

theorem type_extends : Extends Parser.type (IsPhrase TypePhrase) :=
  ⟨begun_type, fun tokens => (typeUpTo_extends tokens.length).error tokens⟩

section Attributes

theorem begun_arguments : Begun (IsPhrase ClosedArguments) [] :=
  begun_token (Lexeme.genuine_symbol .closeParen) fun p => ⟨[], [], p, rfl, .nil⟩

theorem argumentsUpTo_extends (bound : Nat) :
    Extends (argumentsUpTo bound) (IsPhrase ClosedArguments) := by
  induction bound with
  | zero => exact .fail begun_arguments
  | succ bound ih =>
    have hs := argumentsUpTo_sound bound
    have hone (lexeme : Lexeme) (position : Position) (token : AttrToken)
        (h : attrToken? lexeme = some token) :
        Extends (do return token :: (← argumentsUpTo bound))
          fun ts => IsPhrase ClosedArguments (⟨lexeme, position⟩ :: ts) := by
      refine Extends.bind hs ih fun us tokens hus => .pure ?_
      rw [List.append_nil]
      exact ⟨_, closedArguments_cons (attrTokenPhrase_of h) hus⟩
    refine Extends.branch ?_ begun_arguments
    intro lexeme position k hk
    cases lexeme with
    | symbol symbol =>
      cases symbol with
      | closeParen =>
        cases hk
        exact .pure ⟨[], [], position, rfl, .nil⟩
      | openParen =>
        cases hk
        refine Extends.bind hs ih fun us group hus => ?_
        refine Extends.bind hs ih fun vs tokens hvs => .pure ?_
        obtain ⟨ws, q, rfl, hws⟩ := hus
        rw [List.append_nil, ← List.cons_append]
        exact ⟨_, closedArguments_cons (.group hws) hvs⟩
      | openBrace | closeBrace => cases hk
      | _ =>
        cases hk
        exact hone _ position _ rfl
    | lifetime | keyword => cases hk
    | _ =>
      cases hk
      exact hone _ position _ rfl

theorem arguments_extends : Extends arguments (IsPhrase ClosedArguments) :=
  ⟨begun_arguments, fun tokens => (argumentsUpTo_extends tokens.length).error tokens⟩

theorem attrInput_extends : Extends attrInput (IsPhrase ClosedInput) := by
  refine Extends.branch ?_ (begun_token (Lexeme.genuine_symbol .closeBracket) fun p =>
    ⟨.bare, [], p, rfl, .bare⟩)
  intro lexeme position k hk
  cases lexeme with
  | symbol symbol =>
    cases symbol with
    | closeBracket =>
      cases hk
      exact .pure ⟨.bare, [], position, rfl, .bare⟩
    | openParen =>
      cases hk
      refine Extends.bind arguments_sound arguments_extends fun us tokens hus =>
        Extends.expect_bind fun r => .pure ?_
      obtain ⟨ws, q, rfl, hws⟩ := hus
      rw [← List.cons_append]
      exact ⟨_, _, r, rfl, .arguments hws⟩
    | equal =>
      cases hk
      refine Extends.bind attrLiteral_sound (Extends.branch ?_ ?_) fun us token hus =>
        Extends.expect_bind fun r => .pure ?_
      · intro lexeme p k hk
        obtain ⟨token, ht, rfl⟩ := Option.map_eq_some_iff.mp hk
        exact .pure ⟨token, literalPhrase_of ht⟩
      · exact begun_token genuine_number fun p => ⟨_, .number⟩
      · rw [← List.cons_append]
        exact ⟨_, _, r, rfl, .value hus⟩
    | _ => cases hk
  | _ => cases hk

theorem nextName_extends : Extends (do expect (.symbol .pathSep); name) (IsPhrase NextName) :=
  Extends.expect_bind fun _ => Extends.name fun name _ => ⟨name, .mk⟩

theorem outerAttribute_extends : Extends outerAttribute (IsPhrase AttributePhrase) := by
  refine Extends.here_bind fun location => Extends.expect_bind fun p => ?_
  refine Extends.expect_bind fun q => Extends.name_bind fun first r => ?_
  refine Extends.bind (nextName_sound.many _) (.many nextName_sound nextName_extends _)
    fun xs others hxs => Extends.bind attrInput_sound attrInput_extends fun ys input hys => .pure ?_
  obtain ⟨zs, s, rfl, hzs⟩ := hys
  rw [List.append_nil, ← List.append_assoc xs]
  exact ⟨_, .mk hxs hzs⟩

theorem attributes_extends : Extends attributes (IsPhrase (Many AttributePhrase)) :=
  .many outerAttribute_sound outerAttribute_extends _

end Attributes

section Declarations

/-- The attributes and the visibility in front of a field or a declaration. -/
theorem marks_extend {S : List Token → Prop} {q : List Attribute → Bool → Parser β}
    (hq : ∀ as annotations vs visible, Many AttributePhrase as annotations →
      OptionalWord .pub vs visible → Extends (q annotations visible) fun ts => S (as ++ vs ++ ts)) :
    Extends (do
      let annotations ← attributes
      let visible ← optional (.keyword .pub)
      q annotations visible) S := by
  refine Extends.bind attributes_sound attributes_extends fun as annotations has => ?_
  refine Extends.optional_bind (fun p => ?_) ?_
  · simpa using hq as annotations _ true has (.present (p := p))
  · simpa using hq as annotations _ false has .absent

theorem namedField_extends : Extends namedField (IsPhrase NamedFieldPhrase) := by
  refine marks_extend fun as annotations vs visible has hvs => Extends.here_bind fun location => ?_
  refine Extends.name_bind fun name p => Extends.expect_bind fun q => ?_
  refine Extends.bind type_sound type_extends fun ts type hts => .pure ?_
  rw [List.append_nil]
  exact ⟨_, .mk has hvs hts⟩

theorem tupleField_extends : Extends tupleField (IsPhrase TupleFieldPhrase) := by
  refine Extends.here_bind fun location => marks_extend fun as annotations vs visible has hvs => ?_
  refine Extends.bind type_sound type_extends fun ts type hts => .pure ?_
  rw [List.append_nil]
  exact ⟨_, .mk has hvs hts⟩

theorem namedFields_extends (p : Position) : Extends namedFields fun ts =>
    IsPhrase (Enclosed .openBrace .closeBrace NamedFieldPhrase) (⟨.symbol .openBrace, p⟩ :: ts) :=
  .commaList namedField_sound namedField_extends .openBrace .closeBrace p

theorem tupleFields_extends (p : Position) : Extends tupleFields fun ts =>
    IsPhrase (Enclosed .openParen .closeParen TupleFieldPhrase) (⟨.symbol .openParen, p⟩ :: ts) :=
  .commaList tupleField_sound tupleField_extends .openParen .closeParen p

theorem variantFields_extends : Extends (choose (fun
    | .symbol .openBrace => some namedFields
    | .symbol .openParen => some tupleFields
    | _ => none) (pure [])) (IsPhrase VariantFields) := by
  refine Extends.choose ?_ (.pure ⟨[], .none⟩)
  intro lexeme position k hk
  cases lexeme with
  | symbol symbol =>
    cases symbol with
    | openBrace =>
      cases hk
      refine (namedFields_extends position).imp fun ts => ?_
      rintro ⟨fields, h⟩
      exact ⟨fields, .named h⟩
    | openParen =>
      cases hk
      refine (tupleFields_extends position).imp fun ts => ?_
      rintro ⟨fields, h⟩
      exact ⟨fields, .tuple h⟩
    | _ => cases hk
  | _ => cases hk

theorem variant_extends : Extends variant (IsPhrase VariantPhrase) := by
  refine Extends.bind attributes_sound attributes_extends fun as annotations has => ?_
  refine Extends.name_bind fun name p => ?_
  refine Extends.bind variantFields_sound variantFields_extends fun ts fields hts => .pure ?_
  rw [List.append_nil]
  exact ⟨name, .mk has hts⟩

theorem structFields_extends : Extends structFields (IsPhrase StructFields) := by
  refine Extends.branch ?_ (begun_token (Lexeme.genuine_symbol .semicolon) fun p => ⟨[], .unit⟩)
  intro lexeme position k hk
  cases lexeme with
  | symbol symbol =>
    cases symbol with
    | openBrace =>
      cases hk
      refine (namedFields_extends position).imp fun ts => ?_
      rintro ⟨fields, h⟩
      exact ⟨fields, .named h⟩
    | openParen =>
      cases hk
      refine Extends.bind (tupleFields_sound position) (tupleFields_extends position)
        fun ts fields hts => Extends.expect_bind fun p => .pure ⟨fields, ?_⟩
      exact .tuple hts
    | semicolon =>
      cases hk
      exact .pure ⟨[], .unit⟩
    | _ => cases hk
  | _ => cases hk

/-- A record without fields is a way to go on wherever a declaration may follow. -/
theorem begun_body (attributes : List Attribute) : Begun (IsPhrase (BodyPhrase attributes)) [] := by
  refine ⟨[⟨.keyword .struct, {}⟩, ⟨.name "a", {}⟩, ⟨.symbol .semicolon, {}⟩], ?_, _, .struct .unit⟩
  simpa [AllGenuine] using
    ⟨Lexeme.genuine_keyword .struct, genuine_name, Lexeme.genuine_symbol .semicolon⟩

theorem declaration_extends : Extends declaration (IsPhrase DeclarationPhrase) := by
  refine marks_extend fun as attributes vs visible has hvs => Extends.here_bind fun location => ?_
  refine Extends.imp (R := IsPhrase (BodyPhrase attributes))
    (Extends.branch ?_ (begun_body attributes)) fun ts => ?_
  · intro lexeme position k hk
    cases lexeme with
    | keyword word =>
      cases word with
      | struct =>
        cases hk
        refine Extends.name_bind fun name p => Extends.bind structFields_sound structFields_extends
          fun ts fields hts => .pure ?_
        rw [List.append_nil]
        exact ⟨_, .struct hts⟩
      | union =>
        cases hk
        refine Extends.name_bind fun name p => Extends.expect_bind fun q =>
          Extends.bind (namedFields_sound q) (namedFields_extends q) fun ts fields hts => .pure ?_
        rw [List.append_nil]
        exact ⟨_, .union hts⟩
      | enum =>
        cases hk
        refine Extends.name_bind fun name p => Extends.expect_bind fun q =>
          Extends.bind (variant_sound.commaList .openBrace .closeBrace q)
            (.commaList variant_sound variant_extends .openBrace .closeBrace q)
            fun ts variants hts => .pure ?_
        rw [List.append_nil]
        exact ⟨_, .enum hts⟩
      | _ => cases hk
    | _ => cases hk
  · rintro ⟨d, h⟩
    exact ⟨d, .mk has hvs h⟩

theorem declarationsUpTo_sound (bound : Nat) : Sound (declarationsUpTo bound) Start := by
  induction bound with
  | zero => exact .pure .nil
  | succ bound ih =>
    have hmore : Sound (do return (← declaration) :: (← declarationsUpTo bound)) Start := by
      refine declaration_sound.bind fun us d hus => ih.bind fun vs ds hvs => .pure ?_
      rw [List.append_nil]
      exact .cons hus hvs
    intro tokens ds rest hr
    unfold declarationsUpTo at hr
    split at hr
    · next hempty =>
      cases hr
      exact ⟨[], List.isEmpty_iff.mp hempty, .nil⟩
    · exact hmore tokens ds rest hr

theorem declarationsUpTo_extends (bound : Nat) :
    Extends (declarationsUpTo bound) (IsPhrase Start) := by
  induction bound with
  | zero => exact .pure ⟨[], .nil⟩
  | succ bound ih =>
    have hmore : Extends (do return (← declaration) :: (← declarationsUpTo bound))
        (IsPhrase Start) := by
      refine Extends.bind declaration_sound declaration_extends fun us d hus =>
        Extends.bind (declarationsUpTo_sound bound) ih fun vs ds hvs => .pure ?_
      rw [List.append_nil]
      exact ⟨d :: ds, .cons hus hvs⟩
    refine ⟨begun_of ⟨[], .nil⟩, ?_⟩
    intro tokens left hr
    unfold declarationsUpTo at hr
    split at hr
    · cases hr
    · exact hmore.error tokens left hr

theorem declarations_extends : Extends declarations (IsPhrase Start) :=
  ⟨begun_of ⟨[], .nil⟩, fun tokens => (declarationsUpTo_extends tokens.length).error tokens⟩

end Declarations

end RecordBuilders.Syntax.Parser
