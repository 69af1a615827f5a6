import RecordBuilders.Proofs.Syntax.Grammar
import RecordBuilders.Syntax.Parser.Basic

/-! Parsers against phrases of the grammar. A sound parser takes a phrase off the front of the
tokens; a complete one takes off every phrase, unless the token behind it would go on with it. Both
notions pass through the combinators. -/
namespace RecordBuilders.Syntax.Parser
open Text Grammar

variable {α β : Type}

/-- Whatever the parser takes off is a phrase for its result. -/
def Sound (p : Parser α) (P : List Token → α → Prop) : Prop :=
  ∀ tokens a rest, p tokens = .ok (a, rest) → ∃ used, tokens = used ++ rest ∧ P used a

/-- The next token is none of those with which a phrase could go on. -/
def Stops (goesOn : List Lexeme) (rest : List Token) : Prop :=
  ∀ t ∈ rest.head?, t.lexeme ∉ goesOn

/-- Every phrase of at most `bound` tokens is taken off where it stops. -/
def Complete (bound : Nat) (p : Parser α) (P : List Token → α → Prop)
    (goesOn : List Lexeme) : Prop :=
  ∀ used a rest, used.length ≤ bound → P used a → Stops goesOn rest →
    p (used ++ rest) = .ok (a, rest)

/-- Every phrase has a first token, and that is one of `first`. -/
def BeginsWith (P : List Token → α → Prop) (first : Lexeme → Prop) : Prop :=
  ∀ used a, P used a → ∃ t ts, used = t :: ts ∧ first t.lexeme

@[simp] theorem stops_nil {goesOn : List Lexeme} : Stops goesOn [] := by
  simp [Stops]

@[simp] theorem stops_cons {goesOn : List Lexeme} {t : Token} {ts : List Token} :
    Stops goesOn (t :: ts) ↔ t.lexeme ∉ goesOn := by
  simp [Stops]

theorem stops_empty {rest : List Token} : Stops [] rest := by
  simp [Stops]

theorem Stops.of_subset {goesOn fewer : List Lexeme} {rest : List Token} (h : Stops goesOn rest)
    (hs : fewer ⊆ goesOn) : Stops fewer rest :=
  fun t ht hm => h t ht (hs hm)

theorem Stops.of_begins {P : List Token → α → Prop} {first : Lexeme → Prop}
    {goesOn : List Lexeme} {used rest : List Token} {a : α} (h : BeginsWith P first)
    (hp : P used a) (hg : ∀ l ∈ goesOn, ¬first l) : Stops goesOn (used ++ rest) := by
  obtain ⟨t, ts, rfl, ht⟩ := h used a hp
  exact stops_cons.mpr fun hm => hg t.lexeme hm ht

theorem Complete.mono {m n : Nat} {p : Parser α} {P : List Token → α → Prop}
    {goesOn : List Lexeme} (h : Complete n p P goesOn) (hm : m ≤ n) :
    Complete m p P goesOn :=
  fun used a rest hl => h used a rest (Nat.le_trans hl hm)

theorem bind_eq {p : Parser α} {q : α → Parser β} {tokens r : List Token} {a : α}
    (h : p tokens = .ok (a, r)) : (p >>= q) tokens = q a r := by
  simp [bind, StateT.bind, Except.bind, h]

theorem bind_eq_ok {p : Parser α} {q : α → Parser β} {tokens rest : List Token} {b : β}
    (h : (p >>= q) tokens = .ok (b, rest)) :
    ∃ a left, p tokens = .ok (a, left) ∧ q a left = .ok (b, rest) := by
  cases hp : p tokens with
  | error e => simp [bind, StateT.bind, Except.bind, hp] at h
  | ok found => exact ⟨found.1, found.2, rfl, by simpa [bind, StateT.bind, Except.bind, hp] using h⟩

theorem map_eq {p : Parser α} {f : α → β} {tokens rest : List Token} {a : α}
    (h : p tokens = .ok (a, rest)) : (f <$> p) tokens = .ok (f a, rest) := by
  rw [map_eq_pure_bind, bind_eq h]
  rfl

theorem pure_eq {a : α} {tokens : List Token} :
    (pure a : Parser α) tokens = .ok (a, tokens) := rfl

section Evaluation
variable {lexeme : Lexeme} {p : Position} {rest : List Token}

theorem branch_eq {rule : Lexeme → Option (Parser α)} {k : Parser α} (h : rule lexeme = some k) :
    branch rule (⟨lexeme, p⟩ :: rest) = k rest := by
  simp [branch, choose, h]

@[simp] theorem expect_cons : expect lexeme (⟨lexeme, p⟩ :: rest) = .ok ((), rest) := by
  simp [expect, branch, choose, pure_eq]

@[simp] theorem optional_cons : optional lexeme (⟨lexeme, p⟩ :: rest) = .ok (true, rest) := by
  simp [optional, choose, pure_eq]

theorem optional_eq (h : Stops [lexeme] rest) : optional lexeme rest = .ok (false, rest) := by
  cases rest with
  | nil => rfl
  | cons t ts =>
    have hne : t.lexeme ≠ lexeme := by simpa using h
    simp [optional, choose, hne, pure_eq]

@[simp] theorem name_cons {text : String} :
    name (⟨.name text, p⟩ :: rest) = .ok (text, rest) := rfl

@[simp] theorem number_cons {text : String} :
    number (⟨.number text, p⟩ :: rest) = .ok (text, rest) := rfl

end Evaluation

namespace Sound
variable {p : Parser α} {P : List Token → α → Prop} {Q : List Token → β → Prop}

theorem pure {a : α} (h : P [] a) : Sound (pure a) P := by
  rintro tokens b rest hr
  cases hr
  exact ⟨[], rfl, h⟩

theorem fail : Sound (fail : Parser α) P := by
  intro tokens a rest hr
  cases hr

/-- What the second parser takes off has to complete what the first one took. -/
theorem bind {q : α → Parser β} (hp : Sound p P)
    (hq : ∀ us a, P us a → Sound (q a) fun vs b => Q (us ++ vs) b) :
    Sound (p >>= q) Q := by
  intro tokens b rest hr
  obtain ⟨a, left, hpa, hqb⟩ := bind_eq_ok hr
  obtain ⟨us, rfl, hus⟩ := hp tokens a left hpa
  obtain ⟨vs, rfl, hvs⟩ := hq us a hus left b rest hqb
  exact ⟨us ++ vs, (List.append_assoc us vs rest).symm, hvs⟩

theorem map {f : α → β} (hp : Sound p P) (hf : ∀ us a, P us a → Q us (f a)) :
    Sound (f <$> p) Q := by
  rw [map_eq_pure_bind]
  refine hp.bind fun us a hus => pure ?_
  rw [List.append_nil]
  exact hf us a hus

theorem imp {Other : List Token → α → Prop} (hp : Sound p P)
    (h : ∀ us a, P us a → Other us a) : Sound p Other := by
  intro tokens a rest hr
  obtain ⟨used, rfl, hu⟩ := hp tokens a rest hr
  exact ⟨used, rfl, h used a hu⟩

/-- The place of the next token is that of the first token of the phrase. -/
theorem here_bind {q : Option Position → Parser β}
    (hq : ∀ location, Sound (q location) fun ts b =>
      ts ≠ [] ∧ (ts.head?.map Token.position = location → Q ts b)) :
    Sound (here >>= q) Q := by
  intro tokens b rest hr
  obtain ⟨_, _, ⟨⟩, hr⟩ := bind_eq_ok hr
  obtain ⟨used, rfl, hne, hw⟩ := hq _ tokens b rest hr
  refine ⟨used, rfl, hw ?_⟩
  cases used with
  | nil => exact absurd rfl hne
  | cons t ts => rfl

theorem choose {rule : Lexeme → Option (Parser α)} {otherwise : Parser α}
    (hrule : ∀ lexeme position k, rule lexeme = some k →
      Sound k fun ts a => P (⟨lexeme, position⟩ :: ts) a)
    (ho : Sound otherwise P) : Sound (choose rule otherwise) P := by
  intro tokens a rest hr
  cases tokens with
  | nil => exact ho [] a rest hr
  | cons token tokens =>
    cases hk : rule token.lexeme with
    | none =>
      simp only [Parser.choose, hk] at hr
      exact ho (token :: tokens) a rest hr
    | some k =>
      simp only [Parser.choose, hk] at hr
      obtain ⟨used, rfl, hu⟩ := hrule token.lexeme token.position k hk tokens a rest hr
      exact ⟨token :: used, rfl, hu⟩

theorem branch {rule : Lexeme → Option (Parser α)}
    (hrule : ∀ lexeme position k, rule lexeme = some k →
      Sound k fun ts a => P (⟨lexeme, position⟩ :: ts) a) : Sound (branch rule) P :=
  choose hrule fail

theorem expect (lexeme : Lexeme) :
    Sound (expect lexeme) fun ts _ => ∃ position, ts = [⟨lexeme, position⟩] := by
  apply branch
  intro found position k hk
  split at hk
  · rename_i he
    cases hk
    exact pure ⟨position, by rw [he]⟩
  · cases hk

theorem optional (lexeme : Lexeme) : Sound (optional lexeme) fun ts found =>
    (found = false ∧ ts = []) ∨ (found = true ∧ ∃ position, ts = [⟨lexeme, position⟩]) := by
  apply choose
  · intro found position k hk
    split at hk
    · rename_i he
      cases hk
      exact pure (Or.inr ⟨rfl, position, by rw [he]⟩)
    · cases hk
  · exact pure (Or.inl ⟨rfl, rfl⟩)

theorem optionalWord (word : Keyword) :
    Sound (Parser.optional (.keyword word)) (OptionalWord word) := by
  refine (optional _).imp ?_
  rintro us found (⟨rfl, rfl⟩ | ⟨rfl, position, rfl⟩)
  · exact .absent
  · exact .present

theorem name : Sound name fun ts text => ∃ position, ts = [⟨.name text, position⟩] := by
  apply branch
  intro lexeme position k hk
  cases lexeme with
  | name text =>
    cases hk
    exact pure ⟨position, rfl⟩
  | _ => cases hk

theorem number : Sound number fun ts text => ∃ position, ts = [⟨.number text, position⟩] := by
  apply branch
  intro lexeme position k hk
  cases lexeme with
  | number text =>
    cases hk
    exact pure ⟨position, rfl⟩
  | _ => cases hk

theorem manyUpTo (hp : Sound p P) (lead : Lexeme) (bound : Nat) :
    Sound (manyUpTo lead p bound) (Many P) := by
  induction bound with
  | zero => exact pure .nil
  | succ bound ih =>
    intro tokens as rest hr
    have hmore : Sound (do return (← p) :: (← Parser.manyUpTo lead p bound)) (Many P) := by
      refine bind hp fun us a hus => bind ih fun vs as hvs => pure ?_
      rw [List.append_nil]
      exact .cons hus hvs
    unfold Parser.manyUpTo at hr
    split at hr
    · exact hmore tokens as rest hr
    · cases hr
      exact ⟨[], rfl, .nil⟩

theorem many (hp : Sound p P) (lead : Lexeme) : Sound (many lead p) (Many P) :=
  fun tokens => hp.manyUpTo lead tokens.length tokens

theorem commaItemsUpTo (hp : Sound p P) (close : Symbol) (bound : Nat) :
    Sound (commaItemsUpTo (.symbol close) p bound) fun ts as =>
      ∃ us position, ts = us ++ [⟨.symbol close, position⟩] ∧ CommaItems P us as := by
  induction bound with
  | zero => exact fail
  | succ bound ih =>
    refine bind hp fun us a hus => bind (optional comma) fun vs found hvs => ?_
    rcases hvs with ⟨rfl, rfl⟩ | ⟨rfl, p, rfl⟩
    · refine bind (expect _) fun ws _ hws => pure ?_
      obtain ⟨q, rfl⟩ := hws
      exact ⟨us, q, by simp, .last hus⟩
    · refine bind (optional _) fun ws found hws => ?_
      rcases hws with ⟨rfl, rfl⟩ | ⟨rfl, q, rfl⟩
      · refine bind ih fun xs as hxs => pure ?_
        obtain ⟨ys, q, rfl, hys⟩ := hxs
        exact ⟨us ++ ⟨comma, p⟩ :: ys, q, by simp, .cons hus hys⟩
      · exact pure ⟨us ++ [⟨comma, p⟩], q, by simp, .lastComma hus⟩

/-- The opening symbol was taken off before. -/
theorem commaList (hp : Sound p P) (opening close : Symbol) (position : Position) :
    Sound (commaList (.symbol close) p) fun ts as =>
      Enclosed opening close P (⟨.symbol opening, position⟩ :: ts) as := by
  refine bind (optional _) fun us found hus => ?_
  rcases hus with ⟨rfl, rfl⟩ | ⟨rfl, q, rfl⟩
  · intro tokens as rest hr
    obtain ⟨used, rfl, us, q, rfl, hus⟩ := hp.commaItemsUpTo close _ tokens as rest hr
    exact ⟨us ++ [⟨.symbol close, q⟩], rfl, .items hus⟩
  · exact pure .empty

end Sound

section Repeated
variable {p : Parser α} {P : List Token → α → Prop} {first : Lexeme → Prop}
  {goesOn : List Lexeme} {bound : Nat}

/-- Repeated phrases stop an item just as their first one does, or what follows if there are none. -/
theorem stops_many {us rest : List Token} {as : List α} (h : Many P us as)
    (hfirst : BeginsWith P first) (hg : ∀ l ∈ goesOn, ¬first l) (hr : Stops goesOn rest) :
    Stops goesOn (us ++ rest) := by
  cases h with
  | nil => exact hr
  | cons head _ =>
    rw [List.append_assoc]
    exact .of_begins hfirst head hg

theorem manyUpTo_eq {lead : Lexeme} (hp : Complete bound p P goesOn)
    (hfirst : BeginsWith P (· = lead)) (hlead : lead ∉ goesOn) {used rest : List Token}
    {as : List α} (h : Many P used as) (hr : Stops (lead :: goesOn) rest)
    (hb : used.length ≤ bound) {fuel : Nat} (hf : used.length ≤ fuel) :
    manyUpTo lead p fuel (used ++ rest) = .ok (as, rest) := by
  have hstop : Stops goesOn rest := fun t ht hm => hr t ht (List.mem_cons_of_mem _ hm)
  have hg : ∀ l ∈ goesOn, ¬(l = lead) := fun l hl he => hlead (he ▸ hl)
  induction h generalizing fuel with
  | nil =>
    have hat : atLexeme lead rest = false := by
      cases rest with
      | nil => rfl
      | cons t ts =>
        have hne : t.lexeme ≠ lead := fun he => hr t rfl (by simp [he])
        simpa [atLexeme] using hne
    cases fuel with
    | zero => rfl
    | succ fuel => simp [manyUpTo, hat]
  | @cons ts us a as head tail ih =>
    obtain ⟨t, ts, rfl, ht⟩ := hfirst ts a head
    simp only [List.cons_append, List.length_cons, List.length_append] at hb hf
    cases fuel with
    | zero => omega
    | succ fuel =>
      have hhead := hp _ a (us ++ rest) (by simp only [List.length_cons]; omega) head
        (stops_many tail hfirst hg hstop)
      have htail := @ih (by omega) fuel (by omega)
      rw [List.append_assoc]
      simp only [List.cons_append] at hhead ⊢
      simp only [manyUpTo, atLexeme, List.head?_cons, Option.map_some, ht, beq_self_eq_true,
        ↓reduceIte]
      rw [bind_eq hhead, bind_eq htail]
      rfl

theorem Complete.many {lead : Lexeme} (hp : Complete bound p P goesOn)
    (hfirst : BeginsWith P (· = lead)) (hlead : lead ∉ goesOn) :
    Complete bound (many lead p) (Many P) (lead :: goesOn) :=
  fun _ _ _ hb h hr => manyUpTo_eq hp hfirst hlead h hr hb (by simp)

theorem complete_optionalWord (word : Keyword) :
    Complete bound (optional (.keyword word)) (OptionalWord word) [.keyword word] := by
  intro used found rest _ h hr
  cases h with
  | absent => exact optional_eq hr
  | present => exact optional_cons

/-- A closing symbol that neither begins an item nor goes on with one. -/
structure Closes (close : Symbol) (first : Lexeme → Prop) (goesOn : List Lexeme) : Prop where
  notFirst : ¬first (.symbol close)
  stops : .symbol close ∉ goesOn
  commaStops : comma ∉ goesOn
  ne_comma : .symbol close ≠ comma

theorem begins_commaItems (hfirst : BeginsWith P first) :
    BeginsWith (CommaItems P) first := by
  intro used as h
  cases h with
  | last head => exact hfirst _ _ head
  | lastComma head | cons head _ =>
    obtain ⟨t, ts, rfl, ht⟩ := hfirst _ _ head
    exact ⟨t, _, rfl, ht⟩

theorem commaItemsUpTo_eq {close : Symbol} (hp : Complete bound p P goesOn)
    (hfirst : BeginsWith P first) (hc : Closes close first goesOn) {used rest : List Token}
    {as : List α} {q : Position} (h : CommaItems P used as) (hb : used.length ≤ bound)
    {fuel : Nat} (hf : used.length ≤ fuel) :
    commaItemsUpTo (.symbol close) p fuel (used ++ ⟨.symbol close, q⟩ :: rest) =
      .ok (as, rest) := by
  have hcomma : Stops [comma] (⟨.symbol close, q⟩ :: rest) :=
    stops_cons.mpr (by simpa using hc.ne_comma)
  induction h generalizing fuel with
  | @last ts a head =>
    obtain ⟨t, us, rfl, _⟩ := hfirst ts a head
    cases fuel with
    | zero => simp at hf
    | succ fuel =>
      have hhead := hp _ a (⟨.symbol close, q⟩ :: rest) hb head (stops_cons.mpr hc.stops)
      rw [commaItemsUpTo, bind_eq hhead, bind_eq (optional_eq hcomma)]
      simp only [Bool.false_eq_true, ↓reduceIte]
      rw [bind_eq expect_cons]
      rfl
  | @lastComma ts a r head =>
    simp only [List.length_append, List.length_singleton] at hb hf
    cases fuel with
    | zero => omega
    | succ fuel =>
      have hhead := hp ts a (⟨comma, r⟩ :: ⟨.symbol close, q⟩ :: rest) (by omega) head
        (stops_cons.mpr hc.commaStops)
      rw [List.append_assoc, List.singleton_append, commaItemsUpTo]
      rw [show Lexeme.symbol .comma = comma from rfl, bind_eq hhead, bind_eq optional_cons]
      simp only [↓reduceIte]
      rw [bind_eq optional_cons]
      rfl
  | @cons ts us a as r head tail ih =>
    simp only [List.length_append, List.length_cons] at hb hf
    cases fuel with
    | zero => omega
    | succ fuel =>
      have hhead := hp ts a (⟨comma, r⟩ :: (us ++ ⟨.symbol close, q⟩ :: rest)) (by omega) head
        (stops_cons.mpr hc.commaStops)
      have htail := @ih (by omega) fuel (by omega)
      have hstop : Stops [.symbol close] (us ++ ⟨.symbol close, q⟩ :: rest) :=
        .of_begins (begins_commaItems hfirst) tail (by simpa using hc.notFirst)
      rw [List.append_assoc, List.cons_append, commaItemsUpTo]
      rw [show Lexeme.symbol .comma = comma from rfl, bind_eq hhead, bind_eq optional_cons]
      simp only [↓reduceIte]
      rw [bind_eq (optional_eq hstop)]
      simp only [Bool.false_eq_true, ↓reduceIte]
      rw [bind_eq htail]
      rfl

theorem commaList_eq {opening close : Symbol} (hp : Complete bound p P goesOn)
    (hfirst : BeginsWith P first) (hc : Closes close first goesOn) {used : List Token}
    {as : List α} (h : Enclosed opening close P used as) (hb : used.length ≤ bound + 1) :
    ∃ position us, used = ⟨.symbol opening, position⟩ :: us ∧
      ∀ rest, commaList (.symbol close) p (us ++ rest) = .ok (as, rest) := by
  cases h with
  | empty =>
    refine ⟨_, _, rfl, fun rest => ?_⟩
    rw [commaList, List.singleton_append, bind_eq optional_cons]
    rfl
  | @items ts as r q items =>
    refine ⟨_, _, rfl, fun rest => ?_⟩
    simp only [List.length_cons, List.length_append, List.length_nil] at hb
    have hstop : Stops [.symbol close] (ts ++ ⟨.symbol close, q⟩ :: rest) :=
      .of_begins (begins_commaItems hfirst) items (by simpa using hc.notFirst)
    rw [List.append_assoc, List.singleton_append, commaList, bind_eq (optional_eq hstop)]
    exact commaItemsUpTo_eq hp hfirst hc items (by omega) (by simp)

end Repeated

end RecordBuilders.Syntax.Parser
