import RecordBuilders.Proofs.Syntax.Recognition
import RecordBuilders.Syntax.Parser

/-! Attributes are read as the grammar has them. Each of their lists is closed by a bracket, so
nothing can go on with an attribute that is complete. -/
namespace RecordBuilders.Syntax.Parser
open Text Grammar

theorem literalPhrase_of {lexeme : Lexeme} {token : AttrToken} {p : Position}
    (h : attrLiteral? lexeme = some token) : LiteralPhrase [⟨lexeme, p⟩] token := by
  cases lexeme with
  | string text =>
    cases h
    exact .string
  | number text =>
    cases h
    exact .number
  | _ => cases h

theorem attrTokenPhrase_of {lexeme : Lexeme} {token : AttrToken} {p : Position}
    (h : attrToken? lexeme = some token) : AttrTokenPhrase [⟨lexeme, p⟩] token := by
  cases lexeme with
  | name text =>
    cases h
    exact .word
  | symbol symbol =>
    cases symbol with
    | openBrace | closeBrace | openParen | closeParen => cases h
    | _ =>
      cases h
      exact .punct (by simp)
  | lifetime | keyword => cases h
  | string | number => exact .literal (literalPhrase_of h)

/-- A token by itself, or a group. -/
theorem attrTokenPhrase_cases {ts : List Token} {token : AttrToken} (h : AttrTokenPhrase ts token) :
    (∃ lexeme p, ts = [⟨lexeme, p⟩] ∧ attrToken? lexeme = some token) ∨
      ∃ us tokens p q, ts = ⟨.symbol .openParen, p⟩ :: (us ++ [⟨.symbol .closeParen, q⟩]) ∧
        token = .group tokens ∧ Many AttrTokenPhrase us tokens := by
  cases h with
  | word => exact Or.inl ⟨_, _, rfl, rfl⟩
  | @punct symbol p free =>
    refine Or.inl ⟨_, _, rfl, ?_⟩
    cases symbol with
    | openBrace | closeBrace | openParen | closeParen => simp at free
    | _ => rfl
  | literal literal =>
    cases literal with
    | string => exact Or.inl ⟨_, _, rfl, rfl⟩
    | number => exact Or.inl ⟨_, _, rfl, rfl⟩
  | group list => exact Or.inr ⟨_, _, _, _, rfl, rfl, list⟩

/-- Arguments and the parenthesis that closes them. -/
def ClosedArguments (ts : List Token) (tokens : List AttrToken) : Prop :=
  ∃ us p, ts = us ++ [⟨.symbol .closeParen, p⟩] ∧ Many AttrTokenPhrase us tokens

theorem closedArguments_cons {ts us : List Token} {token : AttrToken} {tokens : List AttrToken}
    (h : AttrTokenPhrase ts token) (hus : ClosedArguments us tokens) :
    ClosedArguments (ts ++ us) (token :: tokens) := by
  obtain ⟨vs, p, rfl, hvs⟩ := hus
  exact ⟨ts ++ vs, p, (List.append_assoc ts vs _).symm, .cons h hvs⟩

theorem argumentsUpTo_sound (bound : Nat) : Sound (argumentsUpTo bound) ClosedArguments := by
  induction bound with
  | zero => exact .fail
  | succ bound ih =>
    have hone (lexeme : Lexeme) (position : Position) (token : AttrToken)
        (h : attrToken? lexeme = some token) :
        Sound (do return token :: (← argumentsUpTo bound))
          fun ts tokens => ClosedArguments (⟨lexeme, position⟩ :: ts) tokens := by
      refine ih.bind fun us tokens hus => .pure ?_
      rw [List.append_nil]
      exact closedArguments_cons (attrTokenPhrase_of h) hus
    apply Sound.branch
    intro lexeme position k hk
    cases lexeme with
    | symbol symbol =>
      cases symbol with
      | closeParen =>
        cases hk
        exact .pure ⟨[], position, rfl, .nil⟩
      | openParen =>
        cases hk
        refine ih.bind fun us group hus => ih.bind fun vs tokens hvs => .pure ?_
        obtain ⟨ws, q, rfl, hws⟩ := hus
        rw [List.append_nil, ← List.cons_append]
        exact closedArguments_cons (.group hws) hvs
      | openBrace | closeBrace => cases hk
      | _ =>
        cases hk
        exact hone _ position _ rfl
    | lifetime | keyword => cases hk
    | _ =>
      cases hk
      exact hone _ position _ rfl

theorem argumentsUpTo_token {bound : Nat} {lexeme : Lexeme} {p : Position} {token : AttrToken}
    {rest : List Token} (h : attrToken? lexeme = some token) :
    argumentsUpTo (bound + 1) (⟨lexeme, p⟩ :: rest) =
      (do return token :: (← argumentsUpTo bound)) rest := by
  cases lexeme with
  | symbol symbol =>
    cases symbol with
    | openBrace | closeBrace | openParen | closeParen => cases h
    | _ =>
      cases h
      rfl
  | lifetime | keyword => cases h
  | _ =>
    cases h
    rfl

theorem argumentsUpTo_complete (n : Nat) : Complete n (argumentsUpTo n) ClosedArguments [] := by
  induction n with
  | zero =>
    rintro _ tokens rest hb ⟨us, p, rfl, _⟩
    simp at hb
  | succ n ih =>
    rintro _ tokens rest hb ⟨us, p, rfl, h⟩ _
    cases h with
    | nil => rfl
    | @cons ts us token tokens head tail =>
      have hclosed : ClosedArguments (us ++ [⟨.symbol .closeParen, p⟩]) tokens := ⟨us, p, rfl, tail⟩
      rw [List.append_assoc, List.append_assoc]
      rcases attrTokenPhrase_cases head with ⟨lexeme, q, rfl, ht⟩ | ⟨vs, group, q, r, rfl, rfl, hg⟩
      · simp only [List.length_append, List.length_cons, List.length_nil] at hb
        have hmore := ih _ tokens rest (by simp; omega) hclosed stops_empty
        rw [List.singleton_append, argumentsUpTo_token ht, ← List.append_assoc, bind_eq hmore]
        rfl
      · simp only [List.length_append, List.length_cons, List.length_nil] at hb
        have hmore := ih _ tokens rest (by simp; omega) hclosed stops_empty
        have hgroup := ih (vs ++ [⟨.symbol .closeParen, r⟩]) group
          (us ++ [⟨.symbol .closeParen, p⟩] ++ rest) (by simp; omega) ⟨vs, r, rfl, hg⟩ stops_empty
        rw [List.cons_append, argumentsUpTo, branch_eq rfl, ← List.append_assoc us, bind_eq hgroup,
          bind_eq hmore]
        rfl

theorem arguments_sound : Sound arguments ClosedArguments :=
  fun tokens => argumentsUpTo_sound tokens.length tokens

theorem arguments_complete (n : Nat) : Complete n arguments ClosedArguments [] :=
  fun used tokens rest _ h => (argumentsUpTo_complete _).mono (by simp) used tokens rest
    (Nat.le_refl _) h

/-- What stands behind the path, with the bracket that closes the attribute. -/
def ClosedInput (ts : List Token) (input : AttrInput) : Prop :=
  ∃ us p, ts = us ++ [⟨.symbol .closeBracket, p⟩] ∧ InputPhrase us input

theorem attrLiteral_sound :
    Sound (branch fun lexeme => (attrLiteral? lexeme).map pure) LiteralPhrase := by
  apply Sound.branch
  intro lexeme p k hk
  obtain ⟨token, ht, rfl⟩ := Option.map_eq_some_iff.mp hk
  exact .pure (literalPhrase_of ht)

theorem attrInput_sound : Sound attrInput ClosedInput := by
  apply Sound.branch
  intro lexeme position k hk
  cases lexeme with
  | symbol symbol =>
    cases symbol with
    | closeBracket =>
      cases hk
      exact .pure ⟨[], position, rfl, .bare⟩
    | openParen =>
      cases hk
      refine Sound.bind arguments_sound fun us tokens hus =>
        (Sound.expect _).bind fun vs _ hvs => .pure ?_
      obtain ⟨ws, q, rfl, hws⟩ := hus
      obtain ⟨r, rfl⟩ := hvs
      rw [List.append_nil, ← List.cons_append]
      exact ⟨_, r, rfl, .arguments hws⟩
    | equal =>
      cases hk
      refine Sound.bind attrLiteral_sound fun us token hus =>
        (Sound.expect _).bind fun vs _ hvs => .pure ?_
      obtain ⟨r, rfl⟩ := hvs
      rw [List.append_nil, ← List.cons_append]
      exact ⟨_, r, rfl, .value hus⟩
    | _ => cases hk
  | _ => cases hk

theorem attrInput_complete (n : Nat) : Complete n attrInput ClosedInput [] := by
  rintro _ input rest hb ⟨us, p, rfl, h⟩ _
  cases h with
  | bare => rfl
  | @arguments ts tokens q r list =>
    have hread := arguments_complete _ (ts ++ [⟨.symbol .closeParen, r⟩]) tokens
      (⟨.symbol .closeBracket, p⟩ :: rest) (Nat.le_refl _) ⟨ts, r, rfl, list⟩ stops_empty
    rw [List.append_assoc, List.cons_append, attrInput, branch_eq rfl, List.singleton_append,
      bind_eq hread, bind_eq expect_cons]
    rfl
  | value literal =>
    cases literal with
    | string | number =>
      simp only [List.cons_append, List.nil_append]
      rw [attrInput, branch_eq rfl, bind_eq rfl, bind_eq expect_cons]
      rfl

theorem nextName_sound : Sound (do expect (.symbol .pathSep); name) NextName := by
  refine (Sound.expect _).bind fun us _ hus => Sound.imp Sound.name fun vs name hvs => ?_
  obtain ⟨p, rfl⟩ := hus
  obtain ⟨q, rfl⟩ := hvs
  exact .mk

theorem outerAttribute_sound : Sound outerAttribute AttributePhrase := by
  refine Sound.here_bind fun location => (Sound.expect _).bind fun us _ hus => ?_
  refine (Sound.expect _).bind fun vs _ hvs => Sound.bind Sound.name fun ws first hws => ?_
  refine Sound.bind (nextName_sound.many _) fun xs others hxs =>
    Sound.bind attrInput_sound fun ys input hys => .pure ?_
  obtain ⟨p, rfl⟩ := hus
  obtain ⟨q, rfl⟩ := hvs
  obtain ⟨r, rfl⟩ := hws
  obtain ⟨zs, s, rfl, hzs⟩ := hys
  refine ⟨by simp, ?_⟩
  rintro rfl
  rw [List.append_nil, ← List.append_assoc xs]
  exact .mk hxs hzs

theorem nextName_begins : BeginsWith NextName (· = .symbol .pathSep) := by
  rintro _ name ⟨_⟩
  exact ⟨_, _, rfl, rfl⟩

theorem nextName_complete (n : Nat) :
    Complete n (do expect (.symbol .pathSep); name) NextName [] := by
  rintro _ name rest _ ⟨_⟩ _
  exact bind_eq expect_cons

/-- What stands behind the path does not go on with it. -/
theorem stops_closedInput {ts rest : List Token} {input : AttrInput} (h : ClosedInput ts input) :
    Stops [.symbol .pathSep] (ts ++ rest) := by
  obtain ⟨us, p, rfl, h⟩ := h
  cases h with
  | bare | arguments | value => simp

theorem outerAttribute_complete (n : Nat) : Complete n outerAttribute AttributePhrase [] := by
  intro used a rest _ h _
  obtain @⟨ns, ts, first, others, input, p, q, r, s, names, inside⟩ := h
  have hclosed : ClosedInput (ts ++ [⟨.symbol .closeBracket, s⟩]) input := ⟨ts, s, rfl, inside⟩
  have hnames := (nextName_complete _).many nextName_begins (by simp) ns others
    (ts ++ [⟨.symbol .closeBracket, s⟩] ++ rest) (Nat.le_refl _) names (stops_closedInput hclosed)
  have hinput := attrInput_complete _ _ input rest (Nat.le_refl _) hclosed stops_empty
  rw [List.append_assoc ns]
  simp only [List.cons_append]
  rw [List.append_assoc ns, outerAttribute, bind_eq rfl, bind_eq expect_cons, bind_eq expect_cons,
    bind_eq name_cons, bind_eq hnames, bind_eq hinput]
  rfl

theorem attributePhrase_begins : BeginsWith AttributePhrase (· = .symbol .hash) := by
  rintro _ _ ⟨_, _⟩
  exact ⟨_, _, rfl, rfl⟩

theorem attributes_sound : Sound attributes (Many AttributePhrase) :=
  Sound.many outerAttribute_sound _

theorem attributes_complete (n : Nat) :
    Complete n attributes (Many AttributePhrase) [.symbol .hash] :=
  (outerAttribute_complete n).many attributePhrase_begins (by simp)

end RecordBuilders.Syntax.Parser
