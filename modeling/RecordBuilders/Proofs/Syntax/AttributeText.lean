import RecordBuilders.Proofs.Syntax.Spelling

/-! The text of an attribute is read back as that attribute, if it occurs in some source text.
Blanks keep the arguments apart, so that two of them never make a comment or another symbol. -/
namespace RecordBuilders.Syntax
open Text Grammar

theorem AttrToken.texts_eq (tokens : List AttrToken) :
    AttrToken.texts tokens = tokens.map AttrToken.text := by
  induction tokens with
  | nil => rfl
  | cons token tokens ih => rw [AttrToken.texts, ih, List.map_cons]

/-- An argument ends in front of a blank and of a closing parenthesis. -/
def argumentContinues (c : Char) : Bool := c != ' ' && c != ')'

theorem argumentContinues_of_continues {l : Lexeme} {c : Char} (h : l.continues c = true) :
    argumentContinues c = true := by
  simp only [argumentContinues, Bool.and_eq_true, bne_iff_ne]
  constructor
  · rintro rfl
    cases l with
    | symbol s => cases s <;> cases h
    | _ => cases h
  · rintro rfl
    cases l with
    | symbol s => cases s <;> cases h
    | _ => cases h

section Arguments
variable {h : Char → Bool} {ds : List Char} {P : List Token → Prop}

theorem spells_argument (l : Lexeme) (hl : l.Genuine) (hP : ∀ p, P [⟨l, p⟩]) :
    Spells argumentContinues l.text.toList P :=
  (Spells.lexeme l hl hP).mono fun _ => argumentContinues_of_continues

theorem spells_parenthesized {tokens : List AttrToken}
    (htokens : ∀ token ∈ tokens,
      Spells argumentContinues token.text.toList (AttrTokenPhrase · token))
    (hb : Spells h ds fun vs => ∀ us p q, Many AttrTokenPhrase us tokens →
      P (⟨.symbol .openParen, p⟩ :: (us ++ ⟨.symbol .closeParen, q⟩ :: vs))) :
    Spells h ('(' :: ((" ".intercalate (AttrToken.texts tokens)).toList ++ ')' :: ds)) P := by
  rw [AttrToken.texts_eq]
  refine .mark .openParen (fun _ _ => rfl) (.before (spells_spaced rfl htokens) rfl ?_)
  refine .mark .closeParen (fun _ _ => rfl) (hb.imp ?_)
  exact fun vs hvs q us hus p => hvs us p q hus

theorem spells_attrToken {ts : List Token} {token : AttrToken} (ht : AttrTokenPhrase ts token) :
    AllGenuine ts → Spells argumentContinues token.text.toList (AttrTokenPhrase · token) := by
  refine AttrTokenPhrase.induct
    (M := fun ts token => AllGenuine ts →
      Spells argumentContinues token.text.toList (AttrTokenPhrase · token))
    ?word ?punct ?literal ?group ht
  case word =>
    intro name p hg
    exact spells_argument (.name name) (hg _ List.mem_cons_self) fun _ => .word
  case punct =>
    intro symbol p free hg
    exact spells_argument (.symbol symbol) (Lexeme.genuine_symbol symbol) fun _ => .punct free
  case literal =>
    intro ts token literal hg
    cases literal with
    | @string text p =>
      exact spells_argument (.string text) (hg _ List.mem_cons_self) fun _ => .literal .string
    | @number text p =>
      exact spells_argument (.number text) (hg _ List.mem_cons_self) fun _ => .literal .number
  case group =>
    intro ts tokens p q list hg
    have hts : AllGenuine ts := hg.within ⟨[_], [_], rfl⟩
    simp only [AttrToken.text, String.toList_append, String.reduceToList, List.cons_append,
      List.nil_append]
    refine spells_parenthesized (forall_items hts list.exists_phrase) (.nil ?_)
    exact fun us p q hus => .group hus

end Arguments

theorem spells_attrPath {ns : List Token} {first : String} {others : List String} {p : Position}
    (names : Many NextName ns others) (hg : AllGenuine (⟨.name first, p⟩ :: ns)) :
    Spells isWordPart ("::".intercalate (first :: others)).toList fun ts =>
      ∃ q us, ts = ⟨.name first, q⟩ :: us ∧ Many NextName us others := by
  have hnames : ∀ name ∈ first :: others, (Lexeme.name name).Genuine := by
    refine List.forall_mem_cons.mpr ⟨hg _ List.mem_cons_self, fun name hname => ?_⟩
    obtain ⟨_, hvs, @⟨_, q, r⟩⟩ := names.exists_phrase name hname
    exact hg ⟨.name name, r⟩ (List.mem_cons_of_mem _ (hvs.subset (by simp)))
  have hall : ∀ name ∈ first :: others,
      Spells isWordPart (id name).toList fun us => ∃ q, us = [⟨.name name, q⟩] :=
    fun name hname => .lexeme (.name name) (hnames name hname) fun q => ⟨q, rfl⟩
  have hnext : ∀ p us name, (∃ q, us = [⟨.name name, q⟩]) →
      NextName (⟨.symbol .pathSep, p⟩ :: us) name := by
    rintro p _ name ⟨q, rfl⟩
    exact .mk
  have hpath := spells_path rfl hnext hall
  rw [List.map_id] at hpath
  refine hpath.imp fun ts hts => ?_
  obtain ⟨_, us, rfl, ⟨q, rfl⟩, hus⟩ := hts
  exact ⟨q, us, rfl, hus⟩

/-- No word goes on into what stands behind the path. -/
theorem halts_input {input : AttrInput} {rest : List Char} :
    Halts isWordPart (input.text.toList ++ ']' :: rest) := by
  cases input with
  | bare => exact halts_cons.mpr rfl
  | arguments tokens =>
    simp only [AttrInput.text, String.toList_append, String.reduceToList, List.cons_append]
    exact halts_cons.mpr rfl
  | value literal =>
    simp only [AttrInput.text, String.toList_append, String.reduceToList, List.cons_append]
    exact halts_cons.mpr rfl

theorem spells_input {h : Char → Bool} {ts : List Token} {input : AttrInput}
    (ht : InputPhrase ts input) (hg : AllGenuine ts) :
    Spells h (input.text.toList ++ [']']) fun us =>
      ∃ vs p, us = vs ++ [⟨.symbol .closeBracket, p⟩] ∧ InputPhrase vs input := by
  cases ht with
  | bare => exact .mark .closeBracket (fun _ _ => rfl) (.nil fun p => ⟨[], p, rfl, .bare⟩)
  | @arguments ts tokens p q list =>
    have hts : AllGenuine ts := hg.within ⟨[_], [_], rfl⟩
    have htokens : ∀ token ∈ tokens,
        Spells argumentContinues token.text.toList (AttrTokenPhrase · token) := by
      intro token htoken
      obtain ⟨vs, hvs, hp⟩ := list.exists_phrase token htoken
      exact spells_attrToken hp (hts.within hvs)
    simp only [AttrInput.text, String.toList_append, String.reduceToList, List.append_assoc,
      List.cons_append, List.nil_append]
    refine spells_parenthesized htokens (.mark .closeBracket (fun _ _ => rfl) (.nil ?_))
    intro r us p q hus
    refine ⟨⟨_, p⟩ :: (us ++ [⟨_, q⟩]), r, ?_, .arguments hus⟩
    rw [List.cons_append, List.append_assoc]
    rfl
  | @value ts token p literal =>
    simp only [AttrInput.text, String.toList_append, String.reduceToList, List.cons_append,
      List.nil_append]
    refine .blank (.mark .equal (fun _ _ => rfl) (.blank ?_))
    cases literal with
    | @string text q =>
      refine .token (.string text) (hg ⟨.string text, q⟩ (by simp)) rfl ?_
      refine .mark .closeBracket (fun _ _ => rfl) (.nil fun r q p => ?_)
      exact ⟨_, r, rfl, .value .string⟩
    | @number text q =>
      refine .token (.number text) (hg ⟨.number text, q⟩ (by simp)) rfl ?_
      refine .mark .closeBracket (fun _ _ => rfl) (.nil fun r q p => ?_)
      exact ⟨_, r, rfl, .value .number⟩

/-- An attribute ends with its bracket, whatever follows. -/
theorem spells_attribute {h : Char → Bool} {ts : List Token} {a : Attribute}
    (ha : AttributePhrase ts a) (hg : AllGenuine ts) :
    Spells h a.text.toList fun us => ∃ p, AttributePhrase us { a with location := some p } := by
  obtain @⟨ns, ts, first, others, input, p, q, r, s, names, inside⟩ := ha
  have hns : AllGenuine (⟨.name first, r⟩ :: ns) :=
    List.forall_mem_cons.mpr ⟨hg ⟨.name first, r⟩ (by simp), fun t ht => hg t (by simp [ht])⟩
  have hts : AllGenuine ts := fun t ht => hg t (by simp [ht])
  simp only [Attribute.text, String.toList_append, String.reduceToList, List.append_assoc,
    List.cons_append, List.nil_append]
  refine .mark .hash (fun _ _ => rfl) (.mark .openBracket (fun _ _ => rfl) ?_)
  refine (spells_attrPath names hns).append (fun rest _ => ?_) ((spells_input inside hts).imp ?_)
  · rw [List.append_assoc]
    exact halts_input
  rintro _ ⟨ts, s, rfl, inside⟩ _ ⟨r, ns, rfl, names⟩ q p
  rw [List.cons_append, ← List.append_assoc]
  exact ⟨p, .mk names inside⟩

theorem spells_annotatedField {ts : List Token} {a : Attribute} (ha : AttributePhrase ts a)
    (hg : AllGenuine ts) : Spells isWordPart (a.text ++ " f: T").toList fun us =>
      ∃ f, NamedFieldPhrase us f ∧ ∃ p q, f = {
        name := "f", type := .path [.plain "T"], annotations := [{ a with location := some p }]
        location := some q } := by
  have hname : (Lexeme.name "f").Genuine := genuine_letter rfl rfl
  have hword : (Lexeme.name "T").Genuine := genuine_letter rfl rfl
  simp only [String.toList_append, String.reduceToList]
  refine .before (spells_attribute (h := fun _ => false) ha hg) rfl (.blank ?_)
  refine .token (.name "f") hname rfl (.mark .colon (fun _ _ => rfl) (.blank ?_))
  refine .lexeme (.name "T") hword fun s r q us ⟨p, hus⟩ => ⟨_, ?_, p, q, rfl⟩
  have hlist : Many AttributePhrase us [{ a with location := some p }] := by
    simpa using Many.cons hus .nil
  have htype : TypePhrase [⟨.name "T", s⟩] (.path [.plain "T"]) := .path .plain .nil
  rw [← List.append_nil us]
  exact .mk hlist .absent htype

/-- The attributes of all declarations and fields occur in the text, and whatever attribute occurs
in it, its text is read back as that attribute, at its new place. -/
theorem parse_attribute_text {source : String} {ds : List Declaration}
    (h : parse source = .ok ds) :
    (∀ d ∈ ds, (∀ a ∈ d.attributes, OccursIn AttributePhrase a source) ∧
        ∀ f ∈ d.fields, ∀ a ∈ f.annotations, OccursIn AttributePhrase a source) ∧
      ∀ a, OccursIn AttributePhrase a source → ∃ p q r,
        parse ("struct S \x7b " ++ a.text ++ " f: T \x7d") = .ok [{
          name := "S"
          fields := [{
            name := "f"
            type := .path [.plain "T"]
            annotations := [{ path := a.path, input := a.input, location := some r }]
            location := some q }]
          location := some p }] := by
  refine ⟨fun d hd => ⟨fun a ha => ?_, fun f hf a ha => ?_⟩, ?_⟩
  · exact (declaration_occurs h hd).part fun _ hp => hp.exists_attribute a ha
  · exact (field_occurs h hd hf).part fun _ hp => hp.exists_attribute a ha
  rintro a ⟨tokens, ts, hsplits, hts, ha⟩
  have hg : AllGenuine ts := (genuine_of_splits hsplits).within hts
  obtain ⟨p, f, ⟨r, q, rfl⟩, hparse⟩ := exists_parse_of_field (spells_annotatedField ha hg)
  refine ⟨p, q, r, ?_⟩
  rw [← hparse, String.append_assoc, String.append_assoc, String.append_assoc]
  rfl

/-- Among others two slashes, two colons, a group in a group, and a string with a quote and a line
break in it. -/
theorem parse_attribute_text_marks : ∃ ds,
    parse "#[a::b(/ / *:: : :(x=((\"\\\"\n\")),-1_0))] struct E;" = .ok ds ∧
      ∀ d ∈ ds, ∀ a ∈ d.attributes,
        a.text = "#[a::b(/ / * :: : : (x = ((\"\\\"\n\")) , - 1_0))]" ∧ ∃ p q r,
          parse ("struct S \x7b " ++ a.text ++ " f: T \x7d") = .ok [{
            name := "S"
            fields := [{
              name := "f"
              type := .path [.plain "T"]
              annotations := [{ path := a.path, input := a.input, location := some r }]
              location := some q }]
            location := some p }] := by
  have hparse : parse "#[a::b(/ / *:: : :(x=((\"\\\"\n\")),-1_0))] struct E;" = .ok [{
      name := "E"
      attributes := [{
        path := ["a", "b"]
        input := .arguments [.punct "/", .punct "/", .punct "*", .punct "::", .punct ":",
          .punct ":", .group [.word "x", .punct "=", .group [.group [.literal "\"\\\"\n\""]],
            .punct ",", .punct "-", .literal "1_0"]]
        location := some ⟨1, 1⟩ }]
      location := some ⟨2, 13⟩ }] := by cbv
  obtain ⟨hattributes, hread⟩ := parse_attribute_text hparse
  refine ⟨_, hparse, fun d hd a ha => ⟨?_, hread a ((hattributes d hd).1 a ha)⟩⟩
  simp only [List.mem_singleton] at hd
  subst hd
  simp only [List.mem_singleton] at ha
  subst ha
  cbv

end RecordBuilders.Syntax
