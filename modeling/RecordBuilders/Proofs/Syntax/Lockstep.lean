import RecordBuilders.Proofs.Syntax.SourceGrammar

/-! Parsers look no further than the first token that they leave. Main result: where the parser of
declarations stops in front of a token, it does so whatever comes behind this token. -/
namespace RecordBuilders.Syntax.Parser
open Text

variable {α β : Type}

/-- What a parser answers with a result, or with none, and the tokens that it leaves. -/
def outcome : Option α → List Token → Except (List Token) (α × List Token)
  | none, left => .error left
  | some a, left => .ok (a, left)

theorem outcome_inj {r r' : Option α} {left left' : List Token}
    (h : outcome r left = outcome r' left') : r = r' ∧ left = left' := by
  cases r <;> cases r' <;> cases h <;> exact ⟨rfl, rfl⟩

/-- A parser leaves an end of the tokens. If it stopped in front of a token, having taken fewer than
`bound`, the other parser stops there in the same way, whatever comes behind this token. -/
def Lockstep (bound : Nat) (p p' : Parser α) : Prop :=
  ∀ tokens r left, p tokens = outcome r left → ∃ us, tokens = us ++ left ∧
    (us.length < bound → ∀ t rest rest', left = t :: rest →
      p' (us ++ t :: rest') = outcome r (t :: rest'))

/-- The first token is the one that is left or one that was taken, whatever comes behind. -/
theorem same_head (us : List Token) (t : Token) (rest rest' : List Token) :
    ∃ u ts ts', us ++ t :: rest = u :: ts ∧ us ++ t :: rest' = u :: ts' := by
  cases us with
  | nil => exact ⟨t, rest, rest', rfl, rfl⟩
  | cons u us => exact ⟨u, us ++ t :: rest, us ++ t :: rest', rfl, rfl⟩

/-- Success costs a token. -/
def Takes (p : Parser α) : Prop :=
  ∀ tokens a left, p tokens = .ok (a, left) → left.length + 1 ≤ tokens.length

theorem Sound.takes {p : Parser α} {P : List Token → α → Prop} (hp : Sound p P)
    (hne : ∀ ts a, P ts a → ts ≠ []) : Takes p := by
  intro tokens a left h
  obtain ⟨used, rfl, hused⟩ := hp tokens a left h
  have hpos := List.length_pos_iff.mpr (hne used a hused)
  rw [List.length_append]
  omega

namespace Lockstep
variable {m n : Nat} {p p' : Parser α} {q q' : α → Parser β}

theorem mono (h : Lockstep n p p') (hm : m ≤ n) : Lockstep m p p' := by
  intro tokens r left hr
  obtain ⟨us, htokens, hagree⟩ := h tokens r left hr
  exact ⟨us, htokens, fun hu => hagree (Nat.lt_of_lt_of_le hu hm)⟩

/-- With bound zero nothing is asked of the second parser. -/
theorem zero {p'' : Parser α} (h : Lockstep 0 p p') : Lockstep 0 p p'' := by
  intro tokens r left hr
  obtain ⟨us, htokens, _⟩ := h tokens r left hr
  exact ⟨us, htokens, fun hu => absurd hu (Nat.not_lt_zero _)⟩

theorem pure {a : α} : Lockstep n (Pure.pure a) (Pure.pure a) := by
  intro tokens r left hr
  obtain ⟨rfl, rfl⟩ := outcome_inj (r := some a) hr
  exact ⟨[], rfl, fun _ _ _ _ _ => rfl⟩

theorem fail : Lockstep n (fail : Parser α) fail := by
  intro tokens r left hr
  obtain ⟨rfl, rfl⟩ := outcome_inj (r := none) hr
  exact ⟨[], rfl, fun _ _ _ _ _ => rfl⟩

theorem here : Lockstep n here here := by
  intro tokens r left hr
  obtain ⟨rfl, rfl⟩ := outcome_inj (r := some _) hr
  refine ⟨[], rfl, ?_⟩
  rintro _ t rest rest' rfl
  rfl

/-- What the first parser takes for its result counts towards the bound. -/
theorem bind_of {k : α → Nat} (hp : Lockstep n p p')
    (hk : ∀ tokens a left, p tokens = .ok (a, left) → left.length + k a ≤ tokens.length)
    (hq : ∀ a, Lockstep (n - k a) (q a) (q' a)) : Lockstep n (p >>= q) (p' >>= q') := by
  intro tokens r left hr
  cases hpr : p tokens with
  | error e =>
    have he : (p >>= q) tokens = .error e := by simp [bind, StateT.bind, Except.bind, hpr]
    obtain ⟨rfl, rfl⟩ := outcome_inj (r := none) (he.symm.trans hr)
    obtain ⟨us, htokens, hagree⟩ := hp tokens none e hpr
    refine ⟨us, htokens, ?_⟩
    intro hu t rest rest' hleft
    have hp' : p' (us ++ t :: rest') = .error (t :: rest') := hagree hu t rest rest' hleft
    simp [bind, StateT.bind, Except.bind, hp', outcome]
  | ok found =>
    obtain ⟨a, mid⟩ := found
    rw [bind_eq hpr] at hr
    obtain ⟨us, rfl, hagree⟩ := hp tokens (some a) mid hpr
    obtain ⟨vs, rfl, hagree'⟩ := hq a mid r left hr
    refine ⟨us ++ vs, by simp, ?_⟩
    rintro hu t rest rest' rfl
    have htaken := hk _ a _ hpr
    simp only [List.length_append] at hu htaken
    have hfirst : p' (us ++ (vs ++ t :: rest')) = .ok (a, vs ++ t :: rest') := by
      cases vs with
      | nil => exact hagree (by omega) t rest rest' rfl
      | cons v vs => exact hagree (by omega) v (vs ++ t :: rest) (vs ++ t :: rest') rfl
    rw [List.append_assoc, bind_eq hfirst]
    exact hagree' (by omega) t rest rest' rfl

theorem bind (hp : Lockstep n p p') (hq : ∀ a, Lockstep n (q a) (q' a)) :
    Lockstep n (p >>= q) (p' >>= q') := by
  refine bind_of (k := fun _ => 0) hp (fun tokens a left h => ?_) hq
  obtain ⟨us, rfl, _⟩ := hp tokens (some a) left h
  simp

theorem map {f : α → β} (hp : Lockstep n p p') : Lockstep n (f <$> p) (f <$> p') := by
  rw [map_eq_pure_bind, map_eq_pure_bind]
  exact hp.bind fun _ => pure

theorem choose {rule rule' : Lexeme → Option (Parser α)} {otherwise otherwise' : Parser α}
    (hrule : ∀ lexeme, Option.Rel (Lockstep (n - 1)) (rule lexeme) (rule' lexeme))
    (ho : Lockstep n otherwise otherwise') :
    Lockstep n (choose rule otherwise) (choose rule' otherwise') := by
  intro tokens r left hr
  cases tokens with
  | nil =>
    obtain ⟨us, htokens, _⟩ := ho [] r left hr
    obtain ⟨rfl, rfl⟩ := List.append_eq_nil_iff.mp htokens.symm
    exact ⟨[], rfl, fun _ _ _ _ h => by cases h⟩
  | cons token tokens =>
    have hrel := hrule token.lexeme
    cases hk : rule token.lexeme with
    | none =>
      rw [hk] at hrel
      generalize hk' : rule' token.lexeme = found at hrel
      cases hrel
      simp only [Parser.choose, hk] at hr
      obtain ⟨us, htokens, hagree⟩ := ho (token :: tokens) r left hr
      refine ⟨us, htokens, ?_⟩
      rintro hu t rest rest' rfl
      have ho' := hagree hu t rest rest' rfl
      obtain ⟨u, ts, ts', hts, hts'⟩ := same_head us t rest rest'
      obtain ⟨rfl, _⟩ := List.cons.inj (htokens.trans hts)
      rw [hts'] at ho' ⊢
      simpa only [Parser.choose, hk'] using ho'
    | some k =>
      rw [hk] at hrel
      generalize hk' : rule' token.lexeme = found at hrel
      cases hrel with
      | @some _ k' hlock =>
        simp only [Parser.choose, hk] at hr
        obtain ⟨us, rfl, hagree⟩ := hlock tokens r left hr
        refine ⟨token :: us, rfl, ?_⟩
        rintro hu t rest rest' rfl
        have hk := hagree (Nat.lt_sub_of_add_lt hu) t rest rest' rfl
        simpa [Parser.choose, hk'] using hk

theorem branch {rule rule' : Lexeme → Option (Parser α)}
    (hrule : ∀ lexeme, Option.Rel (Lockstep (n - 1)) (rule lexeme) (rule' lexeme)) :
    Lockstep n (branch rule) (branch rule') :=
  choose hrule fail

theorem expect (lexeme : Lexeme) : Lockstep n (expect lexeme) (expect lexeme) := by
  refine branch fun found => ?_
  split
  · exact .some pure
  · exact .none

theorem optional (lexeme : Lexeme) : Lockstep n (optional lexeme) (optional lexeme) := by
  refine choose (fun found => ?_) pure
  split
  · exact .some pure
  · exact .none

theorem name : Lockstep n name name := by
  refine branch fun lexeme => ?_
  cases lexeme with
  | name text => exact .some pure
  | _ => exact .none

theorem number : Lockstep n number number := by
  refine branch fun lexeme => ?_
  cases lexeme with
  | number text => exact .some pure
  | _ => exact .none

theorem takes_expect (lexeme : Lexeme) : Takes (Parser.expect lexeme) := by
  refine (Sound.expect lexeme).takes ?_
  rintro _ a ⟨position, rfl⟩
  simp

theorem takes_expect_bind {p p' : Parser α} (hp : Lockstep n p p') (lexeme : Lexeme) :
    Takes (Parser.expect lexeme >>= fun _ => p) := by
  intro tokens a left h
  obtain ⟨_, mid, hexpect, hmid⟩ := bind_eq_ok h
  have htaken := takes_expect lexeme tokens _ mid hexpect
  obtain ⟨us, rfl, _⟩ := hp mid (some a) left hmid
  simp only [List.length_append] at htaken
  omega

/-- What follows a word that was found may count on one token less. -/
theorem optional_bind (lexeme : Lexeme) {q q' : Bool → Parser β}
    (htrue : Lockstep (n - 1) (q true) (q' true)) (hfalse : Lockstep n (q false) (q' false)) :
    Lockstep n (Parser.optional lexeme >>= q) (Parser.optional lexeme >>= q') := by
  refine bind_of (k := fun found => if found then 1 else 0) (optional lexeme) ?_ fun found => ?_
  · intro tokens found left h
    obtain ⟨used, rfl, hused⟩ := Sound.optional lexeme tokens found left h
    rcases hused with ⟨rfl, rfl⟩ | ⟨rfl, position, rfl⟩ <;> simp
  · cases found with
    | true => exact htrue
    | false => exact hfalse

/-- A bound on what is taken leaves no use for the parser without fuel. -/
theorem of_pred {P : Nat → Parser α} {fuel : Nat} (h : Lockstep n p (P (fuel - 1 + 1)))
    (hf : n ≤ fuel) : Lockstep n p (P fuel) := by
  cases n with
  | zero => exact h.zero
  | succ n =>
    rw [Nat.sub_add_cancel (Nat.le_trans (Nat.succ_le_succ (Nat.zero_le n)) hf)] at h
    exact h

/-- Parsers that get as much fuel as there are tokens have enough of it. -/
theorem of_length {P P' : Nat → Parser α}
    (h : ∀ m fuel fuel', m ≤ n → m ≤ fuel → m ≤ fuel' → Lockstep m (P fuel) (P' fuel')) :
    Lockstep n (fun tokens => P tokens.length tokens) (fun tokens => P' tokens.length tokens) := by
  intro tokens r left hr
  obtain ⟨us, rfl, _⟩ := h 0 _ 0 (Nat.zero_le n) (Nat.zero_le _) (Nat.le_refl 0) tokens r left hr
  refine ⟨us, rfl, ?_⟩
  rintro hu t rest rest' rfl
  obtain ⟨vs, htokens, hagree⟩ := h (us.length + 1) _ (us ++ t :: rest').length hu (by simp)
    (by simp) _ r _ hr
  obtain rfl := List.append_cancel_right htokens
  exact hagree (Nat.lt_succ_self _) t rest rest' rfl

section Repeated
variable (hp : Lockstep n p p')
include hp

theorem manyUpTo (ht : Takes p) (lead : Lexeme) {fuel fuel' : Nat} (hf : n ≤ fuel)
    (hf' : n ≤ fuel') : Lockstep n (manyUpTo lead p fuel) (manyUpTo lead p' fuel') := by
  induction fuel generalizing n fuel' with
  | zero =>
    obtain rfl := Nat.le_zero.mp hf
    exact pure.zero
  | succ fuel ih =>
    have hmore : Lockstep n (do return (← p) :: (← Parser.manyUpTo lead p fuel))
        (do return (← p') :: (← Parser.manyUpTo lead p' (fuel' - 1))) := by
      refine bind_of (k := fun _ => 1) hp ht fun a => ?_
      exact (ih (hp.mono (by omega)) (by omega) (by omega)).bind fun as => pure
    refine of_pred (P := Parser.manyUpTo lead p') ?_ hf'
    intro tokens r left hr
    unfold Parser.manyUpTo at hr
    split at hr
    · next hat =>
      obtain ⟨us, htokens, hagree⟩ := hmore tokens r left hr
      refine ⟨us, htokens, ?_⟩
      rintro hu t rest rest' rfl
      have hat' : atLexeme lead (us ++ t :: rest') = true := by
        obtain ⟨u, ts, ts', hts, hts'⟩ := same_head us t rest rest'
        rw [htokens, hts] at hat
        rw [hts']
        exact hat
      simp only [Parser.manyUpTo, hat', ↓reduceIte]
      exact hagree hu t rest rest' rfl
    · next hat =>
      obtain ⟨rfl, rfl⟩ := outcome_inj (r := some []) hr
      refine ⟨[], rfl, ?_⟩
      rintro _ t rest rest' rfl
      have hat' : ¬atLexeme lead (t :: rest') = true := hat
      simp only [List.nil_append, Parser.manyUpTo, hat', Bool.false_eq_true, ↓reduceIte]
      rfl

theorem many (ht : Takes p) (lead : Lexeme) : Lockstep n (many lead p) (many lead p') :=
  of_length fun _ _ _ hm => (hp.mono hm).manyUpTo ht lead

theorem commaItemsUpTo (close : Lexeme) {fuel fuel' : Nat} (hf : n ≤ fuel) (hf' : n ≤ fuel') :
    Lockstep n (commaItemsUpTo close p fuel) (commaItemsUpTo close p' fuel') := by
  induction fuel generalizing n fuel' with
  | zero =>
    obtain rfl := Nat.le_zero.mp hf
    exact fail.zero
  | succ fuel ih =>
    refine of_pred (P := Parser.commaItemsUpTo close p') ?_ hf'
    refine bind hp fun first => optional_bind comma ?_ ((expect close).bind fun _ => pure)
    refine bind (optional close) fun found => ?_
    cases found with
    | true => exact pure
    | false =>
      exact (ih (hp.mono (by omega)) (by omega) (by omega)).bind fun as => pure

theorem commaList (close : Lexeme) : Lockstep n (commaList close p) (commaList close p') := by
  refine bind (optional close) fun found => ?_
  cases found with
  | true => exact pure
  | false => exact of_length fun _ _ _ hm => (hp.mono hm).commaItemsUpTo close

end Repeated

end Lockstep

section Types
variable {n : Nat} {type type' : Parser TypeExpr} (ht : Lockstep n type type')
include ht

theorem genericArg_lockstep : Lockstep n (genericArg type) (genericArg type') := by
  refine .choose (fun lexeme => ?_) ht.map
  cases lexeme with
  | lifetime | number => exact .some .pure
  | _ => exact .none

theorem segment_lockstep (name : String) :
    Lockstep n (segment type name) (segment type' name) := by
  refine .choose (fun lexeme => ?_) .pure
  have harguments := (genericArg_lockstep (ht.mono (Nat.sub_le n 1))).commaList (.symbol .greater)
  cases lexeme with
  | symbol symbol =>
    cases symbol with
    | less => exact .some harguments.map
    | _ => exact .none
  | _ => exact .none

theorem path_lockstep (first : String) : Lockstep n (path type first) (path type' first) := by
  have hnext : Lockstep n (do let name ← name; segment type name)
      (do let name ← name; segment type' name) := .bind .name (segment_lockstep ht)
  refine .bind (segment_lockstep ht first) fun head => ?_
  refine .bind ?_ fun tail => .pure
  exact .many (.bind (.expect _) fun _ => hnext) (Lockstep.takes_expect_bind hnext _) _

theorem reference_lockstep : Lockstep n (reference type) (reference type') := by
  refine .bind ?_ fun lifetime => ?_
  · refine .choose (fun lexeme => ?_) .pure
    cases lexeme with
    | lifetime => exact .some .pure
    | _ => exact .none
  · exact .bind (.optional _) fun mutable => .bind ht fun referent => .pure

theorem array_lockstep : Lockstep n (array type) (array type') :=
  .bind ht fun _ => .bind (.expect _) fun _ => .bind .number fun _ =>
    .bind (.expect _) fun _ => .pure

end Types

section Whole
variable {n : Nat}

theorem typeUpTo_lockstep {fuel fuel' : Nat} (hf : n ≤ fuel) (hf' : n ≤ fuel') :
    Lockstep n (typeUpTo fuel) (typeUpTo fuel') := by
  induction fuel generalizing n fuel' with
  | zero =>
    obtain rfl := Nat.le_zero.mp hf
    exact .zero .fail
  | succ fuel ih =>
    refine Lockstep.of_pred (P := typeUpTo) (.branch fun lexeme => ?_) hf'
    have ht : Lockstep (n - 1) (typeUpTo fuel) (typeUpTo (fuel' - 1)) := ih (by omega) (by omega)
    cases lexeme with
    | name first => exact .some (path_lockstep ht first)
    | symbol symbol =>
      cases symbol with
      | ampersand => exact .some (reference_lockstep ht)
      | openParen => exact .some (.map (.commaList ht _))
      | openBracket => exact .some (array_lockstep ht)
      | _ => exact .none
    | _ => exact .none

theorem type_lockstep : Lockstep n Parser.type Parser.type :=
  Lockstep.of_length fun _ _ _ _ => typeUpTo_lockstep

theorem argumentsUpTo_lockstep {fuel fuel' : Nat} (hf : n ≤ fuel) (hf' : n ≤ fuel') :
    Lockstep n (argumentsUpTo fuel) (argumentsUpTo fuel') := by
  induction fuel generalizing n fuel' with
  | zero =>
    obtain rfl := Nat.le_zero.mp hf
    exact .zero .fail
  | succ fuel ih =>
    refine Lockstep.of_pred (P := argumentsUpTo) (.branch fun lexeme => ?_) hf'
    have hmore : Lockstep (n - 1) (argumentsUpTo fuel) (argumentsUpTo (fuel' - 1)) :=
      ih (by omega) (by omega)
    have hone (token : AttrToken) : Lockstep (n - 1) (do return token :: (← argumentsUpTo fuel))
        (do return token :: (← argumentsUpTo (fuel' - 1))) := .bind hmore fun _ => .pure
    cases lexeme with
    | symbol symbol =>
      cases symbol with
      | closeParen => exact .some .pure
      | openParen => exact .some (.bind hmore fun _ => .bind hmore fun _ => .pure)
      | openBrace | closeBrace => exact .none
      | _ => exact .some (hone _)
    | lifetime | keyword => exact .none
    | _ => exact .some (hone _)

theorem arguments_lockstep : Lockstep n arguments arguments :=
  Lockstep.of_length fun _ _ _ _ => argumentsUpTo_lockstep

theorem attrInput_lockstep : Lockstep n attrInput attrInput := by
  refine .branch fun lexeme => ?_
  cases lexeme with
  | symbol symbol =>
    cases symbol with
    | closeBracket => exact .some .pure
    | openParen =>
      exact .some (.bind arguments_lockstep fun _ => .bind (.expect _) fun _ => .pure)
    | equal =>
      refine .some (.bind (.branch fun lexeme => ?_) fun _ => .bind (.expect _) fun _ => .pure)
      cases attrLiteral? lexeme with
      | none => exact .none
      | some token => exact .some .pure
    | _ => exact .none
  | _ => exact .none

theorem outerAttribute_lockstep : Lockstep n outerAttribute outerAttribute := by
  refine .bind .here fun location => .bind (.expect _) fun _ => ?_
  refine .bind (.expect _) fun _ => .bind .name fun first => ?_
  refine .bind ?_ fun rest => .bind attrInput_lockstep fun _ => .pure
  exact .many (.bind (.expect _) fun _ => .name)
    (Lockstep.takes_expect_bind (n := n) .name _) _

theorem attributes_lockstep : Lockstep n attributes attributes := by
  refine .many outerAttribute_lockstep (Sound.takes outerAttribute_sound fun ts a h => ?_) _
  obtain ⟨t, ts, rfl, _⟩ := attributePhrase_begins _ _ h
  simp

theorem namedField_lockstep : Lockstep n namedField namedField := by
  refine .bind attributes_lockstep fun annotations => .bind (.optional _) fun _ => ?_
  refine .bind .here fun location => .bind .name fun name => ?_
  exact .bind (.expect _) fun _ => .bind type_lockstep fun type => .pure

theorem tupleField_lockstep : Lockstep n tupleField tupleField := by
  refine .bind .here fun location => .bind attributes_lockstep fun annotations => ?_
  exact .bind (.optional _) fun _ => .bind type_lockstep fun type => .pure

theorem namedFields_lockstep : Lockstep n namedFields namedFields :=
  .commaList namedField_lockstep _

theorem tupleFields_lockstep : Lockstep n tupleFields tupleFields :=
  .commaList tupleField_lockstep _

theorem variant_lockstep : Lockstep n variant variant := by
  refine .bind attributes_lockstep fun _ => .bind .name fun name => ?_
  refine .bind (.choose (fun lexeme => ?_) .pure) fun _ => .pure
  cases lexeme with
  | symbol symbol =>
    cases symbol with
    | openBrace => exact .some namedFields_lockstep
    | openParen => exact .some tupleFields_lockstep
    | _ => exact .none
  | _ => exact .none

theorem structFields_lockstep : Lockstep n structFields structFields := by
  refine .branch fun lexeme => ?_
  cases lexeme with
  | symbol symbol =>
    cases symbol with
    | openBrace => exact .some namedFields_lockstep
    | openParen =>
      exact .some (.bind tupleFields_lockstep fun _ => .bind (.expect _) fun _ => .pure)
    | semicolon => exact .some .pure
    | _ => exact .none
  | _ => exact .none

theorem declaration_lockstep : Lockstep n declaration declaration := by
  refine .bind attributes_lockstep fun attributes => .bind (.optional _) fun _ => ?_
  refine .bind .here fun location => .branch fun lexeme => ?_
  cases lexeme with
  | keyword word =>
    cases word with
    | struct =>
      exact .some (.bind .name fun _ => .bind structFields_lockstep fun _ => .pure)
    | union =>
      exact .some (.bind .name fun _ => .bind (.expect _) fun _ =>
        .bind namedFields_lockstep fun _ => .pure)
    | enum =>
      exact .some (.bind .name fun _ => .bind (.expect _) fun _ =>
        .bind (.commaList variant_lockstep _) fun _ => .pure)
    | _ => exact .none
  | _ => exact .none

theorem declarationsUpTo_lockstep {fuel fuel' : Nat} (hf : n ≤ fuel) (hf' : n ≤ fuel') :
    Lockstep n (declarationsUpTo fuel) (declarationsUpTo fuel') := by
  induction fuel generalizing n fuel' with
  | zero =>
    obtain rfl := Nat.le_zero.mp hf
    exact .zero .pure
  | succ fuel ih =>
    have hmore : Lockstep n (do return (← declaration) :: (← declarationsUpTo fuel))
        (do return (← declaration) :: (← declarationsUpTo (fuel' - 1))) := by
      refine Lockstep.bind_of (k := fun _ => 1) declaration_lockstep
        (Sound.takes declaration_sound fun _ _ => ne_nil_of_declarationPhrase) fun d => ?_
      exact .bind (ih (by omega) (by omega)) fun ds => .pure
    refine Lockstep.of_pred (P := declarationsUpTo) ?_ hf'
    intro tokens r left hr
    cases tokens with
    | nil =>
      obtain ⟨rfl, rfl⟩ := outcome_inj (r := some []) hr
      exact ⟨[], rfl, fun _ _ _ _ h => by cases h⟩
    | cons token tokens =>
      obtain ⟨us, htokens, hagree⟩ := hmore (token :: tokens) r left hr
      refine ⟨us, htokens, ?_⟩
      rintro hu t rest rest' rfl
      have hne : (us ++ t :: rest').isEmpty = false := by simp
      simp only [declarationsUpTo, hne, Bool.false_eq_true, ↓reduceIte]
      exact hagree hu t rest rest' rfl

theorem declarations_lockstep : Lockstep n declarations declarations :=
  Lockstep.of_length fun _ _ _ _ => declarationsUpTo_lockstep

end Whole

/-- A token at which declarations cannot go on is one whatever comes behind it. -/
theorem declarations_error_of_prefix {us rest : List Token} {t : Token}
    (h : declarations (us ++ t :: rest) = .error (t :: rest)) (rest' : List Token) :
    declarations (us ++ t :: rest') = .error (t :: rest') := by
  obtain ⟨vs, htokens, hagree⟩ := declarations_lockstep (n := us.length + 1) _ none _ h
  obtain rfl := List.append_cancel_right htokens
  exact hagree (Nat.lt_succ_self _) t rest rest' rfl

end RecordBuilders.Syntax.Parser
