import RecordBuilders.Syntax.Parser

/-! What can be told of a parser's results from the tokens that it is given. A parser only takes
tokens away, so a property of all tokens goes on to hold of those that are left. -/
namespace RecordBuilders.Syntax.Parser
open Text

variable {T : Token → Prop} {α β : Type}

/-- From tokens with the property `T`, the parser gets results with the property `P`. -/
def Yields (T : Token → Prop) (p : Parser α) (P : α → Prop) : Prop :=
  ∀ tokens a rest, (∀ t ∈ tokens, T t) → p tokens = .ok (a, rest) → P a ∧ ∀ t ∈ rest, T t

namespace Yields
variable {p : Parser α} {P : α → Prop} {Q : β → Prop}

theorem pure {a : α} (h : P a) : Yields T (pure a) P := by
  intro tokens b rest ht hr
  cases hr
  exact ⟨h, ht⟩

theorem fail : Yields T (fail : Parser α) P := by
  intro tokens a rest _ hr
  cases hr

theorem here : Yields T here fun _ => True := by
  intro tokens a rest ht hr
  cases hr
  exact ⟨trivial, ht⟩

theorem bind {q : α → Parser β} (hp : Yields T p P) (hq : ∀ a, P a → Yields T (q a) Q) :
    Yields T (p >>= q) Q := by
  intro tokens b rest ht hr
  cases hpr : p tokens with
  | error e => simp [Bind.bind, StateT.bind, Except.bind, hpr] at hr
  | ok found =>
    obtain ⟨a, left⟩ := found
    have hr : q a left = .ok (b, rest) := by
      simpa [Bind.bind, StateT.bind, Except.bind, hpr] using hr
    obtain ⟨ha, hl⟩ := hp tokens a left ht hpr
    exact hq a ha left b rest hl hr

theorem map {f : α → β} (hp : Yields T p P) (hf : ∀ a, P a → Q (f a)) : Yields T (f <$> p) Q := by
  rw [map_eq_pure_bind]
  exact hp.bind fun a ha => pure (hf a ha)

theorem imp {R : α → Prop} (hp : Yields T p P) (h : ∀ a, P a → R a) : Yields T p R :=
  fun tokens a rest ht hr => (hp tokens a rest ht hr).imp_left (h a)

theorem trivial (hp : Yields T p P) : Yields T p fun _ => True := hp.imp fun _ _ => True.intro

/-- The property of the tokens also holds of the one by which a parser decides. -/
theorem choose {rule : Lexeme → Option (Parser α)} {otherwise : Parser α}
    (hrule : ∀ token k, T token → rule token.lexeme = some k → Yields T k P)
    (ho : Yields T otherwise P) : Yields T (choose rule otherwise) P := by
  intro tokens a rest ht hr
  cases tokens with
  | nil => exact ho [] a rest ht hr
  | cons token tokens =>
    cases hk : rule token.lexeme with
    | none =>
      simp only [Parser.choose, hk] at hr
      exact ho (token :: tokens) a rest ht hr
    | some k =>
      simp only [Parser.choose, hk] at hr
      exact hrule token k (ht token List.mem_cons_self) hk tokens a rest
        (fun t h => ht t (List.mem_cons_of_mem _ h)) hr

theorem branch {rule : Lexeme → Option (Parser α)}
    (hrule : ∀ token k, T token → rule token.lexeme = some k → Yields T k P) :
    Yields T (branch rule) P :=
  choose hrule fail

theorem expect (lexeme : Lexeme) : Yields T (expect lexeme) fun _ => True := by
  apply branch
  intro token k _ hk
  split at hk
  · cases hk
    exact pure True.intro
  · cases hk

theorem optional (lexeme : Lexeme) : Yields T (optional lexeme) fun _ => True := by
  apply choose
  · intro token k _ hk
    split at hk
    · cases hk
      exact pure True.intro
    · cases hk
  · exact pure True.intro

theorem manyUpTo (hp : Yields T p P) (lead : Lexeme) (bound : Nat) :
    Yields T (manyUpTo lead p bound) fun xs => ∀ x ∈ xs, P x := by
  induction bound with
  | zero => exact pure (by simp)
  | succ bound ih =>
    intro tokens xs rest ht hr
    have hmore : Yields T (do return (← p) :: (← Parser.manyUpTo lead p bound))
        fun xs => ∀ x ∈ xs, P x :=
      bind hp fun x hx => ih.bind fun xs hxs => pure (List.forall_mem_cons.mpr ⟨hx, hxs⟩)
    unfold Parser.manyUpTo at hr
    split at hr
    · exact hmore tokens xs rest ht hr
    · cases hr
      exact ⟨by simp, ht⟩

theorem many (hp : Yields T p P) (lead : Lexeme) :
    Yields T (many lead p) fun xs => ∀ x ∈ xs, P x :=
  fun tokens => hp.manyUpTo lead tokens.length tokens

theorem commaItemsUpTo (hp : Yields T p P) (close : Lexeme) (bound : Nat) :
    Yields T (commaItemsUpTo close p bound) fun xs => ∀ x ∈ xs, P x := by
  induction bound with
  | zero => exact fail
  | succ bound ih =>
    refine bind hp fun x hx => ?_
    have hone : ∀ y ∈ [x], P y := by simpa using hx
    refine bind (optional comma) fun b _ => ?_
    cases b with
    | false => exact bind (expect close) fun _ _ => pure hone
    | true =>
      refine bind (optional close) fun b _ => ?_
      cases b with
      | true => exact pure hone
      | false => exact ih.bind fun xs hxs => pure (List.forall_mem_cons.mpr ⟨hx, hxs⟩)

theorem commaList (hp : Yields T p P) (close : Lexeme) :
    Yields T (commaList close p) fun xs => ∀ x ∈ xs, P x := by
  refine bind (optional close) fun b _ => ?_
  cases b with
  | true => exact pure (by simp)
  | false => exact fun tokens => hp.commaItemsUpTo close tokens.length tokens

end Yields
end RecordBuilders.Syntax.Parser
