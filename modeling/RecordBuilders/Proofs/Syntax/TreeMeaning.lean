import RecordBuilders.Proofs.Success
import RecordBuilders.Proofs.Syntax.Grammar
import RecordBuilders.Proofs.Syntax.TreeBuilder

/-! What is built from a tree is what its tokens stand for. Each rule has a meaning, which says what
is built from its trees; each production keeps it, and so it holds of all that is derived. In
particular nothing is missing in a derived tree. -/
namespace RecordBuilders.Syntax.Concrete
open Text Grammar

section Children
variable {rules : List Rule} {test : Rule → Bool} {t : Tree} {xs ys : List Tree}

/-- The tree is a node of one of the rules. -/
def IsOneOf (rules : List Rule) (t : Tree) : Prop := ∃ r ∈ rules, t.rule? = some r

theorem IsOneOf.mono {more : List Rule} (h : IsOneOf rules t) (hs : rules ⊆ more) :
    IsOneOf more t := by
  obtain ⟨r, hr, ht⟩ := h
  exact ⟨r, hs hr, ht⟩

theorem IsOneOf.isA (h : IsOneOf rules t) (hp : ∀ r ∈ rules, test r = true) :
    isA test t = true := by
  obtain ⟨r, hr, ht⟩ := h
  simp [Concrete.isA, ht, hp r hr]

theorem IsOneOf.not_isA (h : IsOneOf rules t) (hp : ∀ r ∈ rules, test r = false) :
    Concrete.isA test t = false := by
  obtain ⟨r, hr, ht⟩ := h
  simp [Concrete.isA, ht, hp r hr]

theorem IsOneOf.token? (h : IsOneOf rules t) : t.token? = none := by
  obtain ⟨r, _, ht⟩ := h
  cases t with
  | leaf token => cases ht
  | node => rfl

/-- Each of the trees is a node of one of the rules. -/
def AllOneOf (rules : List Rule) (xs : List Tree) : Prop := ∀ t ∈ xs, IsOneOf rules t

@[simp] theorem allOneOf_nil : AllOneOf rules [] := by
  simp [AllOneOf]

@[simp] theorem isA_leaf {token : Token} : isA test (.leaf token) = false := rfl

theorem tokenOf?_leaf {kind : TokenClass} {token : Token} :
    tokenOf? kind (.leaf token) = if kind.holds token.lexeme then some token else none := by
  simp [tokenOf?, Tree.token?, Option.filter]

namespace AllOneOf

theorem filter (h : AllOneOf rules xs) (hp : ∀ r ∈ rules, test r = true) :
    xs.filter (isA test) = xs :=
  List.filter_eq_self.mpr fun t ht => (h t ht).isA hp

theorem filter_none (h : AllOneOf rules xs) (hp : ∀ r ∈ rules, test r = false) :
    xs.filter (isA test) = [] := by
  apply List.filter_eq_nil_iff.mpr
  intro t ht
  simp [(h t ht).not_isA hp]

theorem find?_none (h : AllOneOf rules xs) (hp : ∀ r ∈ rules, test r = false) :
    xs.find? (isA test) = none := by
  apply List.find?_eq_none.mpr
  intro t ht
  simp [(h t ht).not_isA hp]

theorem tokenOf?_none (h : AllOneOf rules xs) (kind : TokenClass) :
    xs.findSome? (tokenOf? kind) = none := by
  apply List.findSome?_eq_none_iff.mpr
  intro t ht
  simp [tokenOf?, (h t ht).token?]

end AllOneOf

end Children

section Built
variable {α : Type} {R : Rule → List Token → List Tree → Prop} {rules : List Rule}
  {build : Tree → Except TreeFault α} {P : List Token → α → Prop} {p : Pattern}
  {ts us vs : List Token} {xs : List Tree}

/-- The one tree is a node of one of the rules, and what is built from it is what the tokens stand
for. -/
def Builds (rules : List Rule) (build : Tree → Except TreeFault α) (P : List Token → α → Prop)
    (ts : List Token) (xs : List Tree) : Prop :=
  ∃ t a, xs = [t] ∧ IsOneOf rules t ∧ build t = .ok a ∧ P ts a

/-- The same for lists of trees. -/
def BuildsAll (rules : List Rule) (build : Tree → Except TreeFault α)
    (P : List Token → List α → Prop) (ts : List Token) (xs : List Tree) : Prop :=
  AllOneOf rules xs ∧ ∃ as, xs.mapM build = .ok as ∧ P ts as

theorem Builds.of_node {r : Rule} {location : Option Position} {children : List Tree} {a : α}
    (hr : r ∈ rules) (hb : build (.node r location children) = .ok a) (ha : P ts a) :
    Builds rules build P ts [.node r location children] :=
  ⟨_, a, rfl, ⟨r, hr, rfl⟩, hb, ha⟩

theorem Builds.imp {rules' : List Rule} {Q : List Token → α → Prop} (h : Builds rules build P ts xs)
    (hr : rules ⊆ rules') (hq : ∀ a, P ts a → Q us a) : Builds rules' build Q us xs := by
  obtain ⟨t, a, rfl, ht, hb, ha⟩ := h
  exact ⟨t, a, rfl, ht.mono hr, hb, hq a ha⟩

theorem Builds.cons {Q : List Token → List α → Prop} {ys : List Tree}
    (h : Builds rules build P ts xs) (hs : BuildsAll rules build Q us ys) :
    AllOneOf rules (xs ++ ys) ∧
      ∃ a as, (xs ++ ys).mapM build = .ok (a :: as) ∧ P ts a ∧ Q us as := by
  obtain ⟨t, a, rfl, ht, hb, ha⟩ := h
  obtain ⟨hall, as, hbs, has⟩ := hs
  refine ⟨List.forall_mem_cons.mpr ⟨ht, hall⟩, a, as, ?_, ha, has⟩
  rw [List.singleton_append, List.mapM_cons, hb, hbs]
  rfl

theorem builds_many (hp : ∀ ts xs, Matches R p ts xs → Builds rules build P ts xs)
    (h : Matches R (.many p) ts xs) : BuildsAll rules build (Many P) ts xs := by
  generalize hq : Pattern.many p = q at h
  induction h with
  | manyNil => exact ⟨allOneOf_nil, [], rfl, .nil⟩
  | manyCons head _ _ ih =>
    cases hq
    obtain ⟨hall, a, as, hbs, ha, has⟩ := (hp _ _ head).cons (ih rfl)
    exact ⟨hall, a :: as, hbs, .cons ha has⟩
  | _ => cases hq

/-- A comma and an item behind it. -/
def AfterComma (P : List Token → α → Prop) (ts : List Token) (a : α) : Prop :=
  ∃ q us, ts = ⟨.symbol .comma, q⟩ :: us ∧ P us a

theorem commaItems_of_many {a : α} {as : List α} (h : Many (AfterComma P) us as) (ha : P ts a)
    (hv : vs = [] ∨ ∃ q, vs = [⟨.symbol .comma, q⟩]) : CommaItems P (ts ++ us ++ vs) (a :: as) := by
  induction h generalizing ts a with
  | nil =>
    rcases hv with rfl | ⟨q, rfl⟩
    · simpa using .last ha
    · simpa using .lastComma ha
  | cons head _ ih =>
    obtain ⟨q, ws, rfl, hw⟩ := head
    simpa using CommaItems.cons (p := q) ha (ih hw)

theorem builds_afterComma (hp : ∀ ts xs, Matches R p ts xs → Builds rules build P ts xs) :
    ∀ ts xs, Matches R (.sequence [.mark .comma, p]) ts xs →
      Builds rules build (AfterComma P) ts xs := by
  intro ts xs h
  obtain ⟨q, us, rfl, hitem⟩ := matches_sequence_mark.mp h
  apply (hp us xs (matches_sequence_singleton.mp hitem)).imp (List.Subset.refl _)
  intro a ha
  exact ⟨q, us, rfl, ha⟩

/-- An item and those behind it. -/
theorem builds_commaItems (hp : ∀ ts xs, Matches R p ts xs → Builds rules build P ts xs)
    (h : Matches R (.sequence [p, .many (.sequence [.mark .comma, p]), .maybe (.mark .comma)]) ts
      xs) : BuildsAll rules build (CommaItems P) ts xs := by
  obtain ⟨ts, _, ys, _, rfl, rfl, hfirst, hmore⟩ := matches_sequence_cons.mp h
  obtain ⟨us, ws, zs, xs, rfl, rfl, hmany, hlast⟩ := matches_sequence_cons.mp hmore
  obtain ⟨rfl, hws⟩ : xs = [] ∧ (ws = [] ∨ ∃ q, ws = [⟨.symbol .comma, q⟩]) := by
    rcases matches_maybe.mp (matches_sequence_singleton.mp hlast) with hcomma | ⟨rfl, rfl⟩
    · obtain ⟨q, rfl, rfl⟩ := matches_mark.mp hcomma
      exact ⟨rfl, Or.inr ⟨q, rfl⟩⟩
    · exact ⟨rfl, Or.inl rfl⟩
  obtain ⟨hall, a, as, hbs, ha, has⟩ :=
    (hp _ _ hfirst).cons (builds_many (builds_afterComma hp) hmany)
  rw [List.append_nil, ← List.append_assoc]
  exact ⟨hall, a :: as, hbs, commaItems_of_many has ha hws⟩

/-- What is built from a list in brackets. -/
theorem builds_enclosed {opening closing : Symbol}
    (hp : ∀ ts xs, Matches R p ts xs → Builds rules build P ts xs)
    (h : Matches R (.enclosed opening closing p) ts xs) :
    BuildsAll rules build (Enclosed opening closing P) ts xs := by
  obtain ⟨o, us, rfl, hinside⟩ := matches_sequence_mark.mp h
  obtain ⟨us, vs, xs, ys, rfl, rfl, hitems, hclosing⟩ := matches_sequence_cons.mp hinside
  obtain ⟨c, vs, rfl, hend⟩ := matches_sequence_mark.mp hclosing
  obtain ⟨rfl, rfl⟩ := matches_sequence_nil.mp hend
  rw [List.append_nil]
  rcases matches_maybe.mp hitems with hitems | ⟨rfl, rfl⟩
  · obtain ⟨hall, as, hbs, has⟩ := builds_commaItems hp hitems
    exact ⟨hall, as, hbs, .items has⟩
  · exact ⟨allOneOf_nil, [], rfl, .empty⟩

end Built

section Lookup
variable {within r : Rule} {location : Option Position} {xs ys : List Tree} {t : Tree}

theorem firstToken_append {kind : TokenClass} {token : Token}
    (hxs : xs.findSome? (tokenOf? kind) = none) (hk : kind.holds token.lexeme = true) :
    firstToken within kind (xs ++ .leaf token :: ys) = .ok token := by
  rw [firstToken, List.findSome?_append, hxs, List.findSome?_cons, tokenOf?_leaf, if_pos hk]
  rfl

theorem buildTypeIn_append (xs : List Tree) (hxs : xs.find? isType = none)
    (ht : IsOneOf typeRules t) : buildTypeIn within (xs ++ t :: ys) = buildType t := by
  have htype : isType t = true := ht.isA (by decide)
  have hfound : (xs ++ t :: ys).find? isType = some t := by
    rw [List.find?_append, hxs, List.find?_cons, htype]
    rfl
  rw [buildTypeIn_eq, hfound]
  rfl

theorem buildItems_append {α : Type} {item : Rule} {build : Tree → Except TreeFault α}
    (hxs : AllOneOf [item] xs) (hys : ys.filter (isOf item) = []) :
    buildItems item build (.node r location (xs ++ ys)) = xs.mapM build := by
  rw [buildItems, Tree.children, List.filter_append, hxs.filter (by simp), hys, List.append_nil]

end Lookup

/-- `NAME ("::" NAME)*` -/
inductive PathPhrase : List Token → List String → Prop where
  | mk {ns : List Token} {first : String} {others : List String} {p : Position}
      (names : Many NextName ns others) : PathPhrase (⟨.name first, p⟩ :: ns) (first :: others)

def attrTokenRules : List Rule := [.attrIdent, .attrPunct, .attrLiteral, .attrGroup]

def inputRules : List Rule := [.attrArgs, .attrValue]

def argumentRules : List Rule := [.typeArg, .lifetimeArg, .constArg]

def bodyRules : List Rule := [.structNamed, .structTuple, .structUnit, .enumDecl, .unionDecl]

/-- What the trees of a rule are known to build. -/
def Meaning : Rule → List Token → List Tree → Prop
  | .start => Builds [.start] buildDeclarations Start
  | .declaration => Builds [.declaration] buildDeclaration DeclarationPhrase
  | .declBody | .structNamed | .structTuple | .structUnit | .unionDecl | .enumDecl => fun ts xs =>
    ∀ attributes, Builds bodyRules (buildBody attributes) (BodyPhrase attributes) ts xs
  | .variant => Builds [.variant] buildVariant VariantPhrase
  | .namedFields => Builds [.namedFields] (buildItems .namedField buildNamedField)
      (Enclosed .openBrace .closeBrace NamedFieldPhrase)
  | .namedField => Builds [.namedField] buildNamedField NamedFieldPhrase
  | .tupleFields => Builds [.tupleFields] (buildItems .tupleField buildTupleField)
      (Enclosed .openParen .closeParen TupleFieldPhrase)
  | .tupleField => Builds [.tupleField] buildTupleField TupleFieldPhrase
  | .vis => fun ts xs => ∃ t, xs = [t] ∧ IsOneOf [.vis] t ∧ ∃ p, ts = [⟨.keyword .pub, p⟩]
  | .outerAttr => Builds [.outerAttr] buildAttribute AttributePhrase
  | .attrPath => Builds [.attrPath] (fun t => .ok (buildPath t)) PathPhrase
  | .attrInput | .attrArgs | .attrValue => Builds inputRules (addInput .bare) InputPhrase
  | .attrLiteral => Builds [.attrLiteral] buildAttrToken LiteralPhrase
  | .attrToken | .attrIdent | .attrGroup | .attrPunct =>
    Builds attrTokenRules buildAttrToken AttrTokenPhrase
  | .typeExpr | .pathType | .refType | .tupleType | .arrayType =>
    Builds typeRules buildType TypePhrase
  | .pathSegment => Builds [.pathSegment] buildSegment SegmentPhrase
  | .genericArgs => Builds [.genericArgs] buildArgumentList (Enclosed .less .greater ArgumentPhrase)
  | .genericArg | .typeArg | .lifetimeArg | .constArg =>
    Builds argumentRules buildArgument ArgumentPhrase
  | .mutable => fun ts xs => ∃ t, xs = [t] ∧ IsOneOf [.mutable] t ∧ ∃ p, ts = [⟨.keyword .mut, p⟩]

section Types
variable {ts : List Token} {children : List Tree} {location : Option Position}

theorem nextSegment_meaning : ∀ ts xs,
    Matches Meaning (.sequence [.mark .pathSep, .rule .pathSegment]) ts xs →
      Builds [.pathSegment] buildSegment NextSegment ts xs := by
  intro ts xs h
  obtain ⟨p, us, rfl, hs⟩ := matches_sequence_mark.mp h
  have hs : Meaning .pathSegment us xs := matches_rule.mp (matches_sequence_singleton.mp hs)
  exact Builds.imp hs (List.Subset.refl _) fun _ => .mk

theorem pathType_meaning (h : Matches Meaning (production .pathType) ts children) :
    Meaning .pathType ts [.node .pathType location children] := by
  obtain ⟨us, vs, xs, ys, rfl, rfl, hhead, htail⟩ := matches_sequence_cons.mp h
  have hhead : Meaning .pathSegment us xs := matches_rule.mp hhead
  have htail := builds_many nextSegment_meaning (matches_sequence_singleton.mp htail)
  obtain ⟨hall, s, ss, hbs, hs, hss⟩ := Builds.cons hhead htail
  refine .of_node (by simp [typeRules]) ?_ (.path hs hss)
  rw [buildType, buildSegments_eq, hall.filter (by decide), hbs]
  rfl

theorem pathSegment_meaning (h : Matches Meaning (production .pathSegment) ts children) :
    Meaning .pathSegment ts [.node .pathSegment location children] := by
  obtain ⟨name, p, us, xs, rfl, rfl, hlist⟩ := matches_sequence_name.mp h
  have hname : firstToken .pathSegment .name (.leaf ⟨.name name, p⟩ :: xs) = .ok ⟨.name name, p⟩ :=
    rfl
  rcases matches_maybe.mp (matches_sequence_singleton.mp hlist) with hlist | ⟨rfl, rfl⟩
  · obtain ⟨t, arguments, rfl, ht, hb, hs⟩ :
      Builds [.genericArgs] buildArgumentList (Enclosed .less .greater ArgumentPhrase) us xs :=
        matches_rule.mp hlist
    refine .of_node (by simp) ?_ (.applied hs)
    have harguments : buildArgumentsIn [.leaf ⟨.name name, p⟩, t] = .ok (some arguments) := by
      simp [buildArgumentsIn_eq, ht.isA, hb, Functor.map, Except.map]
    rw [buildSegment, hname, harguments]
    rfl
  · exact .of_node (by simp) (by rw [buildSegment, hname]; rfl) .plain

theorem genericArgs_meaning (h : Matches Meaning (production .genericArgs) ts children) :
    Meaning .genericArgs ts [.node .genericArgs location children] := by
  obtain ⟨hall, arguments, hbs, hs⟩ := builds_enclosed (fun _ _ => matches_rule.mp) h
  refine .of_node (by simp) ?_ hs
  rw [buildArgumentList, buildArguments_eq, hall.filter (by decide), hbs]

theorem typeArg_meaning (h : Matches Meaning (production .typeArg) ts children) :
    Meaning .typeArg ts [.node .typeArg location children] := by
  obtain ⟨t, type, rfl, ht, hb, hs⟩ : Meaning .typeExpr ts children := matches_rule.mp h
  refine .of_node (by simp [argumentRules]) ?_ (.type hs)
  have htype : buildTypeIn .typeArg [t] = buildType t := buildTypeIn_append [] rfl ht
  rw [buildArgument, htype, hb]
  rfl

theorem lifetimeArg_meaning (h : Matches Meaning (production .lifetimeArg) ts children) :
    Meaning .lifetimeArg ts [.node .lifetimeArg location children] := by
  obtain ⟨name, p, rfl, rfl⟩ := matches_token.mp h
  exact .of_node (by simp [argumentRules]) rfl .lifetime

theorem constArg_meaning (h : Matches Meaning (production .constArg) ts children) :
    Meaning .constArg ts [.node .constArg location children] := by
  obtain ⟨value, p, rfl, rfl⟩ := matches_token.mp h
  exact .of_node (by simp [argumentRules]) rfl .const

theorem lifetime_meaning {xs : List Tree} (h : Matches Meaning (.maybe (.token .lifetime)) ts xs) :
    ∃ lifetime, OptionalLifetime ts lifetime ∧
      (xs.findSome? (tokenOf? .lifetime)).map (·.lexeme.text) = lifetime ∧
      xs.find? isType = none ∧ xs.any (isOf .mutable) = false := by
  rcases matches_maybe.mp h with h | ⟨rfl, rfl⟩
  · obtain ⟨name, p, rfl, rfl⟩ := matches_token.mp h
    exact ⟨some name, .present, rfl, rfl, rfl⟩
  · exact ⟨none, .absent, rfl, rfl, rfl⟩

theorem mutable_meaning {xs : List Tree} (h : Matches Meaning (.maybe (.rule .mutable)) ts xs) :
    ∃ mutable, OptionalWord .mut ts mutable ∧ AllOneOf [.mutable] xs ∧
      xs.any (isOf .mutable) = mutable := by
  rcases matches_maybe.mp h with h | ⟨rfl, rfl⟩
  · obtain ⟨t, rfl, ht, p, rfl⟩ : Meaning .mutable ts xs := matches_rule.mp h
    have hmut : isOf .mutable t = true := ht.isA (by decide)
    exact ⟨true, .present, List.forall_mem_singleton.mpr ht, by simp [hmut]⟩
  · exact ⟨false, .absent, allOneOf_nil, rfl⟩

theorem refType_meaning (h : Matches Meaning (production .refType) ts children) :
    Meaning .refType ts [.node .refType location children] := by
  obtain ⟨p, us, rfl, hmarks⟩ := matches_sequence_mark.mp h
  obtain ⟨ls, us, lx, xs, rfl, rfl, hname, hrest⟩ := matches_sequence_cons.mp hmarks
  obtain ⟨ms, us, mx, xs, rfl, rfl, hword, hreferent⟩ := matches_sequence_cons.mp hrest
  obtain ⟨t, type, rfl, ht, hb, hs⟩ : Meaning .typeExpr us xs :=
    matches_rule.mp (matches_sequence_singleton.mp hreferent)
  obtain ⟨lifetime, hl, htext, hltype, hlmut⟩ := lifetime_meaning hname
  obtain ⟨mutable, hm, hall, hany⟩ := mutable_meaning hword
  have hlifetime : (lx ++ (mx ++ [t])).findSome? (tokenOf? .lifetime) =
      lx.findSome? (tokenOf? .lifetime) := by
    simp [List.findSome?_append, hall.tokenOf?_none, tokenOf?, ht.token?]
  have hmutable : (lx ++ (mx ++ [t])).any (isOf .mutable) = mutable := by
    have hmut : isOf .mutable t = false := ht.not_isA (by decide)
    simp [List.any_append, hlmut, hany, hmut]
  have htype : buildTypeIn .refType (lx ++ (mx ++ [t])) = .ok type := by
    have hnone : (lx ++ mx).find? isType = none := by
      rw [List.find?_append, hltype, hall.find?_none (by decide)]
      rfl
    rw [← List.append_assoc, buildTypeIn_append _ hnone ht, hb]
  rw [← List.append_assoc]
  refine .of_node (by simp [typeRules]) ?_ (.reference hl hm hs)
  rw [buildType, hlifetime, hmutable, htype, htext]
  rfl

theorem tupleType_meaning (h : Matches Meaning (production .tupleType) ts children) :
    Meaning .tupleType ts [.node .tupleType location children] := by
  obtain ⟨hall, elements, hbs, hs⟩ := builds_enclosed (fun _ _ => matches_rule.mp) h
  refine .of_node (by simp [typeRules]) ?_ (.tuple hs)
  rw [buildType, buildTypes_eq, hall.filter (by simp), hbs]
  rfl

theorem arrayType_meaning (h : Matches Meaning (production .arrayType) ts children) :
    Meaning .arrayType ts [.node .arrayType location children] := by
  obtain ⟨p, us, rfl, hinside⟩ := matches_sequence_mark.mp h
  obtain ⟨us, vs, xs, ys, rfl, rfl, htype, hsemicolon⟩ := matches_sequence_cons.mp hinside
  obtain ⟨t, type, rfl, ht, hb, hs⟩ : Meaning .typeExpr us xs := matches_rule.mp htype
  obtain ⟨q, vs, rfl, hlength⟩ := matches_sequence_mark.mp hsemicolon
  obtain ⟨length, r, vs, ys, rfl, rfl, hclosing⟩ := matches_sequence_number.mp hlength
  obtain ⟨s, vs, rfl, hend⟩ := matches_sequence_mark.mp hclosing
  obtain ⟨rfl, rfl⟩ := matches_sequence_nil.mp hend
  refine .of_node (by simp [typeRules]) ?_ (.array hs)
  have htoken : firstToken .arrayType .number ([t] ++ [.leaf ⟨.number length, r⟩]) =
      .ok ⟨.number length, r⟩ := firstToken_append (by simp [tokenOf?, ht.token?]) rfl
  have htype : buildTypeIn .arrayType ([t] ++ [.leaf ⟨.number length, r⟩]) = .ok type :=
    (buildTypeIn_append [] rfl ht).trans hb
  rw [buildType, htoken, htype]
  rfl

end Types

section Attributes
variable {ts : List Token} {children : List Tree} {location : Option Position}

theorem attrIdent_meaning (h : Matches Meaning (production .attrIdent) ts children) :
    Meaning .attrIdent ts [.node .attrIdent location children] := by
  obtain ⟨name, p, rfl, rfl⟩ := matches_token.mp h
  exact .of_node (by simp [attrTokenRules]) rfl .word

theorem attrPunct_meaning (h : Matches Meaning (production .attrPunct) ts children) :
    Meaning .attrPunct ts [.node .attrPunct location children] := by
  obtain ⟨q, hq, hkept⟩ := matches_oneOf.mp h
  obtain ⟨symbol, hsymbol, rfl⟩ := List.mem_map.mp hq
  obtain ⟨p, rfl, rfl⟩ := matches_kept.mp hkept
  have hfree : ∀ s ∈ punctuation, s ∉ [.openBrace, .closeBrace, .openParen, .closeParen] := by decide
  exact .of_node (by simp [attrTokenRules]) rfl (.punct (hfree symbol hsymbol))

theorem attrLiteral_meaning (h : Matches Meaning (production .attrLiteral) ts children) :
    Meaning .attrLiteral ts [.node .attrLiteral location children] := by
  obtain ⟨q, hq, htoken⟩ := matches_oneOf.mp h
  simp only [List.mem_cons, List.not_mem_nil, or_false] at hq
  rcases hq with rfl | rfl
  · obtain ⟨text, p, rfl, rfl⟩ := matches_token.mp htoken
    exact .of_node (by simp) rfl .string
  · obtain ⟨text, p, rfl, rfl⟩ := matches_token.mp htoken
    exact .of_node (by simp) rfl .number

/-- The tokens between two parentheses. -/
theorem arguments_meaning
    (h : Matches Meaning (.sequence [.mark .openParen, .many (.rule .attrToken), .mark .closeParen])
      ts children) :
    ∃ us p q tokens, ts = ⟨.symbol .openParen, p⟩ :: (us ++ [⟨.symbol .closeParen, q⟩]) ∧
      buildAttrTokens children = .ok tokens ∧ Many AttrTokenPhrase us tokens := by
  obtain ⟨p, us, rfl, hinside⟩ := matches_sequence_mark.mp h
  obtain ⟨us, vs, xs, ys, rfl, rfl, htokens, hclosing⟩ := matches_sequence_cons.mp hinside
  obtain ⟨q, vs, rfl, hend⟩ := matches_sequence_mark.mp hclosing
  obtain ⟨rfl, rfl⟩ := matches_sequence_nil.mp hend
  obtain ⟨hall, tokens, hbs, hs⟩ := builds_many (fun _ _ => matches_rule.mp) htokens
  refine ⟨us, p, q, tokens, rfl, ?_, hs⟩
  rw [List.append_nil, buildAttrTokens_eq, hall.filter (by decide), hbs]

theorem attrGroup_meaning (h : Matches Meaning (production .attrGroup) ts children) :
    Meaning .attrGroup ts [.node .attrGroup location children] := by
  obtain ⟨us, p, q, tokens, rfl, hb, hs⟩ := arguments_meaning h
  refine .of_node (by simp [attrTokenRules]) ?_ (.group hs)
  rw [buildAttrToken, hb]
  rfl

theorem attrArgs_meaning (h : Matches Meaning (production .attrArgs) ts children) :
    Meaning .attrArgs ts [.node .attrArgs location children] := by
  obtain ⟨us, p, q, tokens, rfl, hb, hs⟩ := arguments_meaning h
  refine .of_node (by simp [inputRules]) ?_ (.arguments hs)
  simp [addInput, Tree.rule?, Tree.children, hb, Functor.map, Except.map]

theorem attrValue_meaning (h : Matches Meaning (production .attrValue) ts children) :
    Meaning .attrValue ts [.node .attrValue location children] := by
  obtain ⟨p, us, rfl, hliteral⟩ := matches_sequence_mark.mp h
  obtain ⟨t, token, rfl, ht, hb, hs⟩ : Meaning .attrLiteral us children :=
    matches_rule.mp (matches_sequence_singleton.mp hliteral)
  have hnode : isNode t = true := ht.isA (by simp)
  refine .of_node (by simp [inputRules]) ?_ (.value hs)
  simp [addInput, Tree.rule?, Tree.children, hnode, found, hb, Functor.map, Except.map, bind,
    Except.bind]

theorem names_meaning {ns : List Token} {xs : List Tree}
    (h : Matches Meaning (.many (.sequence [.mark .pathSep, .token .name])) ns xs) :
    Many NextName ns ((xs.filterMap Tree.token?).map (·.lexeme.text)) := by
  generalize hq : Pattern.many _ = q at h
  induction h with
  | manyNil => exact .nil
  | manyCons head _ _ ih =>
    cases hq
    obtain ⟨p, us, rfl, hname⟩ := matches_sequence_mark.mp head
    obtain ⟨name, r, rfl, rfl⟩ := matches_token.mp (matches_sequence_singleton.mp hname)
    exact .cons .mk (ih rfl)
  | _ => cases hq

theorem attrPath_meaning (h : Matches Meaning (production .attrPath) ts children) :
    Meaning .attrPath ts [.node .attrPath location children] := by
  obtain ⟨first, p, us, xs, rfl, rfl, hothers⟩ := matches_sequence_name.mp h
  exact .of_node (by simp) rfl (.mk (names_meaning (matches_sequence_singleton.mp hothers)))

theorem attrInput_meaning {xs : List Tree} (h : Matches Meaning (.maybe (.rule .attrInput)) ts xs) :
    ∃ input, InputPhrase ts input ∧ (xs.filter isNode).foldlM addInput .bare = .ok input := by
  rcases matches_maybe.mp h with hinput | ⟨rfl, rfl⟩
  · obtain ⟨t, input, rfl, ht, hb, hs⟩ : Meaning .attrInput ts xs := matches_rule.mp hinput
    have hnode : isNode t = true := ht.isA (by simp)
    exact ⟨input, hs, by simp [hnode, hb]⟩
  · exact ⟨.bare, .bare, rfl⟩

theorem outerAttr_meaning (h : Matches Meaning (production .outerAttr) ts children) :
    Meaning .outerAttr ts [.node .outerAttr (ts.head?.map Token.position) children] := by
  obtain ⟨p, us, rfl, hbracket⟩ := matches_sequence_mark.mp h
  obtain ⟨q, us, rfl, hinside⟩ := matches_sequence_mark.mp hbracket
  obtain ⟨us, vs, xs, ys, rfl, rfl, hnames, hrest⟩ := matches_sequence_cons.mp hinside
  obtain ⟨vs, ws, ys, zs, rfl, rfl, hvalue, hclosing⟩ := matches_sequence_cons.mp hrest
  obtain ⟨s, ws, rfl, hend⟩ := matches_sequence_mark.mp hclosing
  obtain ⟨rfl, rfl⟩ := matches_sequence_nil.mp hend
  obtain ⟨t, path, rfl, ht, hb, hs⟩ : Meaning .attrPath us xs := matches_rule.mp hnames
  obtain ⟨input, hi, hinput⟩ := attrInput_meaning hvalue
  obtain @⟨ns, first, others, r, names⟩ := hs
  rw [List.append_nil]
  have hpath : isOf .attrPath t = true := ht.isA (by decide)
  have hnode : isNode t = true := ht.isA (by simp)
  have hinputs : (([t] ++ ys).filter isNode).foldlM addInput .bare = .ok input := by
    obtain ⟨_, hr, hrule⟩ := ht
    cases List.mem_singleton.mp hr
    have hkeep : addInput .bare t = .ok .bare := by rw [addInput, hrule]
    rw [List.singleton_append, List.filter_cons, if_pos hnode, List.foldlM_cons, hkeep]
    exact hinput
  have hbuild : buildAttribute (.node .outerAttr (some p) ([t] ++ ys)) =
      .ok { path := first :: others, input, location := some p } := by
    have hfound : ([t] ++ ys).find? (isOf .attrPath) = some t := by simp [hpath]
    rw [buildAttribute, Tree.children, hfound, hinputs, ← Except.ok.inj hb]
    rfl
  rw [List.cons_append, ← List.append_assoc]
  exact .of_node (by simp) hbuild (.mk names hi)

end Attributes

section Fields
variable {ts : List Token} {xs children : List Tree} {location : Option Position}

theorem attributes_meaning (h : Matches Meaning (.many (.rule .outerAttr)) ts xs) :
    BuildsAll [.outerAttr] buildAttribute (Many AttributePhrase) ts xs :=
  builds_many (fun _ _ => matches_rule.mp) h

theorem vis_meaning (h : Matches Meaning (.maybe (.rule .vis)) ts xs) :
    AllOneOf [.vis] xs ∧ ∃ visible, OptionalWord .pub ts visible := by
  rcases matches_maybe.mp h with h | ⟨rfl, rfl⟩
  · obtain ⟨t, rfl, ht, p, rfl⟩ : Meaning .vis ts xs := matches_rule.mp h
    exact ⟨List.forall_mem_singleton.mpr ht, true, .present⟩
  · exact ⟨allOneOf_nil, false, .absent⟩

/-- The attributes and the visibility in front of a field or a declaration. -/
theorem marks_meaning {as vs : List Token} {ax vx : List Tree}
    (ha : Matches Meaning (.many (.rule .outerAttr)) as ax)
    (hv : Matches Meaning (.maybe (.rule .vis)) vs vx) :
    ∃ annotations visible, Many AttributePhrase as annotations ∧ OptionalWord .pub vs visible ∧
      AllOneOf [.outerAttr, .vis] (ax ++ vx) ∧
      ∀ r location tail, tail.filter (isOf .outerAttr) = [] →
        buildItems .outerAttr buildAttribute (.node r location (ax ++ vx ++ tail)) =
          .ok annotations := by
  obtain ⟨hax, annotations, hread, has⟩ := attributes_meaning ha
  obtain ⟨hvx, visible, hvs⟩ := vis_meaning hv
  refine ⟨annotations, visible, has, hvs, ?_, ?_⟩
  · intro t ht
    rcases List.mem_append.mp ht with ht | ht
    · exact (hax t ht).mono (by simp)
    · exact (hvx t ht).mono (by simp)
  · intro r location tail htail
    have hnone : (vx ++ tail).filter (isOf .outerAttr) = [] := by
      rw [List.filter_append, hvx.filter_none (by decide), htail]
      rfl
    rw [List.append_assoc, buildItems_append hax hnone, hread]

theorem namedField_meaning (h : Matches Meaning (production .namedField) ts children) :
    Meaning .namedField ts [.node .namedField location children] := by
  obtain ⟨as, us, ax, xs, rfl, rfl, hattributes, hrest⟩ := matches_sequence_cons.mp h
  obtain ⟨vs, us, vx, xs, rfl, rfl, hvis, hfield⟩ := matches_sequence_cons.mp hrest
  obtain ⟨name, p, us, xs, rfl, rfl, hcolon⟩ := matches_sequence_name.mp hfield
  obtain ⟨q, us, rfl, htype⟩ := matches_sequence_mark.mp hcolon
  obtain ⟨t, type, rfl, ht, hb, hs⟩ : Meaning .typeExpr us xs :=
    matches_rule.mp (matches_sequence_singleton.mp htype)
  obtain ⟨annotations, visible, has, hvs, hmarks, hattributes⟩ := marks_meaning hattributes hvis
  rw [← List.append_assoc, ← List.append_assoc]
  have hname : firstToken .namedField .name (ax ++ vx ++ [.leaf ⟨.name name, p⟩, t]) =
      .ok ⟨.name name, p⟩ := firstToken_append (hmarks.tokenOf?_none _) rfl
  have htype : buildTypeIn .namedField (ax ++ vx ++ [.leaf ⟨.name name, p⟩, t]) = .ok type := by
    have hnone : (ax ++ vx ++ [Tree.leaf ⟨.name name, p⟩]).find? isType = none := by
      rw [List.find?_append, hmarks.find?_none (by decide)]
      rfl
    rw [List.append_cons, buildTypeIn_append _ hnone ht, hb]
  have hother : isOf .outerAttr t = false := ht.not_isA (by decide)
  refine .of_node (by simp) ?_ (.mk has hvs hs)
  rw [buildNamedField, Tree.children, hname, htype, hattributes _ _ _ (by simp [hother])]
  rfl

theorem tupleField_meaning (h : Matches Meaning (production .tupleField) ts children) :
    Meaning .tupleField ts [.node .tupleField (ts.head?.map Token.position) children] := by
  obtain ⟨as, us, ax, xs, rfl, rfl, hattributes, hrest⟩ := matches_sequence_cons.mp h
  obtain ⟨vs, us, vx, xs, rfl, rfl, hvis, htype⟩ := matches_sequence_cons.mp hrest
  obtain ⟨t, type, rfl, ht, hb, hs⟩ : Meaning .typeExpr us xs :=
    matches_rule.mp (matches_sequence_singleton.mp htype)
  obtain ⟨annotations, visible, has, hvs, hmarks, hattributes⟩ := marks_meaning hattributes hvis
  rw [← List.append_assoc, ← List.append_assoc]
  have htype : buildTypeIn .tupleField (ax ++ vx ++ [t]) = .ok type := by
    rw [buildTypeIn_append _ (hmarks.find?_none (by decide)) ht, hb]
  have hother : isOf .outerAttr t = false := ht.not_isA (by decide)
  refine .of_node (by simp) ?_ (.mk has hvs hs)
  rw [buildTupleField, Tree.children, htype, hattributes _ _ _ (by simp [hother])]
  rfl

/-- A list of fields in brackets. -/
theorem fields_meaning {list item : Rule} {opening closing : Symbol}
    {build : Tree → Except TreeFault Field} {P : List Token → Field → Prop}
    (h : BuildsAll [item] build (Enclosed opening closing P) ts children) :
    Builds [list] (buildItems item build) (Enclosed opening closing P) ts
      [.node list location children] := by
  obtain ⟨hall, fields, hbs, hs⟩ := h
  refine .of_node (by simp) ?_ hs
  rw [buildItems, Tree.children, hall.filter (by simp), hbs]

theorem namedFields_meaning (h : Matches Meaning (production .namedFields) ts children) :
    Meaning .namedFields ts [.node .namedFields location children] :=
  fields_meaning (builds_enclosed (fun _ _ => matches_rule.mp) h)

theorem tupleFields_meaning (h : Matches Meaning (production .tupleFields) ts children) :
    Meaning .tupleFields ts [.node .tupleFields location children] :=
  fields_meaning (builds_enclosed (fun _ _ => matches_rule.mp) h)

theorem variantFields_meaning
    (h : Matches Meaning (.maybe (.oneOf [.rule .namedFields, .rule .tupleFields])) ts xs) :
    ∃ fields, VariantFields ts fields := by
  rcases matches_maybe.mp h with h | ⟨rfl, rfl⟩
  · obtain ⟨q, hq, hfields⟩ := matches_oneOf.mp h
    simp only [List.mem_cons, List.not_mem_nil, or_false] at hq
    rcases hq with rfl | rfl
    · obtain ⟨t, fields, _, _, _, hs⟩ : Meaning .namedFields ts xs := matches_rule.mp hfields
      exact ⟨fields, .named hs⟩
    · obtain ⟨t, fields, _, _, _, hs⟩ : Meaning .tupleFields ts xs := matches_rule.mp hfields
      exact ⟨fields, .tuple hs⟩
  · exact ⟨[], .none⟩

theorem variant_meaning (h : Matches Meaning (production .variant) ts children) :
    Meaning .variant ts [.node .variant location children] := by
  obtain ⟨as, us, ax, xs, rfl, rfl, hattributes, hrest⟩ := matches_sequence_cons.mp h
  obtain ⟨name, p, us, xs, rfl, rfl, hfields⟩ := matches_sequence_name.mp hrest
  obtain ⟨hax, annotations, _, has⟩ := attributes_meaning hattributes
  obtain ⟨fields, hs⟩ := variantFields_meaning (matches_sequence_singleton.mp hfields)
  refine .of_node (by simp) ?_ (.mk has hs)
  rw [buildVariant, Tree.children, firstToken_append (hax.tokenOf?_none _) rfl]
  rfl

end Fields

section Declarations
variable {ts : List Token} {xs children : List Tree} {location : Option Position}

theorem buildFields_eq {list item r : Rule} {build : Tree → Except TreeFault Field} {token : Token}
    {t : Tree} {fields : List Field} (ht : IsOneOf [list] t)
    (hb : buildItems item build t = .ok fields) :
    buildFields list item build (.node r location [.leaf token, t]) = .ok fields := by
  have hlist : isOf list t = true := ht.isA (by simp)
  have hfound : [Tree.leaf token, t].find? (isOf list) = some t := by simp [hlist]
  rw [buildFields, Tree.children, hfound]
  exact hb

theorem structNamed_meaning (h : Matches Meaning (production .structNamed) ts children) :
    Meaning .structNamed ts [.node .structNamed (ts.head?.map Token.position) children] := by
  intro attributes
  obtain ⟨p, us, rfl, hname⟩ := matches_sequence_word.mp h
  obtain ⟨name, q, us, xs, rfl, rfl, hfields⟩ := matches_sequence_name.mp hname
  obtain ⟨t, fields, rfl, ht, hb, hs⟩ : Meaning .namedFields us xs :=
    matches_rule.mp (matches_sequence_singleton.mp hfields)
  refine .of_node (by simp [bodyRules]) ?_ (.struct (.named hs))
  have hread : buildFields .namedFields .namedField buildNamedField
      (.node .structNamed (some p) [.leaf ⟨.name name, q⟩, t]) = .ok fields := buildFields_eq ht hb
  unfold buildBody
  exact bind_eq_ok_iff.mpr ⟨_, rfl, bind_eq_ok_iff.mpr ⟨fields, hread, rfl⟩⟩

theorem unionDecl_meaning (h : Matches Meaning (production .unionDecl) ts children) :
    Meaning .unionDecl ts [.node .unionDecl (ts.head?.map Token.position) children] := by
  intro attributes
  obtain ⟨p, us, rfl, hname⟩ := matches_sequence_word.mp h
  obtain ⟨name, q, us, xs, rfl, rfl, hfields⟩ := matches_sequence_name.mp hname
  obtain ⟨t, fields, rfl, ht, hb, hs⟩ : Meaning .namedFields us xs :=
    matches_rule.mp (matches_sequence_singleton.mp hfields)
  refine .of_node (by simp [bodyRules]) ?_ (.union hs)
  have hread : buildFields .namedFields .namedField buildNamedField
      (.node .unionDecl (some p) [.leaf ⟨.name name, q⟩, t]) = .ok fields := buildFields_eq ht hb
  unfold buildBody
  exact bind_eq_ok_iff.mpr ⟨_, rfl, bind_eq_ok_iff.mpr ⟨fields, hread, rfl⟩⟩

theorem structTuple_meaning (h : Matches Meaning (production .structTuple) ts children) :
    Meaning .structTuple ts [.node .structTuple (ts.head?.map Token.position) children] := by
  intro attributes
  obtain ⟨p, us, rfl, hname⟩ := matches_sequence_word.mp h
  obtain ⟨name, q, us, xs, rfl, rfl, hfields⟩ := matches_sequence_name.mp hname
  obtain ⟨us, vs, xs, ys, rfl, rfl, hlist, hsemicolon⟩ := matches_sequence_cons.mp hfields
  obtain ⟨s, vs, rfl, hend⟩ := matches_sequence_mark.mp hsemicolon
  obtain ⟨rfl, rfl⟩ := matches_sequence_nil.mp hend
  obtain ⟨t, fields, rfl, ht, hb, hs⟩ : Meaning .tupleFields us xs := matches_rule.mp hlist
  refine .of_node (by simp [bodyRules]) ?_ (.struct (.tuple hs))
  have hread : buildFields .tupleFields .tupleField buildTupleField
      (.node .structTuple (some p) [.leaf ⟨.name name, q⟩, t]) = .ok fields := buildFields_eq ht hb
  unfold buildBody
  exact bind_eq_ok_iff.mpr ⟨_, rfl, bind_eq_ok_iff.mpr ⟨fields, hread, rfl⟩⟩

theorem structUnit_meaning (h : Matches Meaning (production .structUnit) ts children) :
    Meaning .structUnit ts [.node .structUnit (ts.head?.map Token.position) children] := by
  intro attributes
  obtain ⟨p, us, rfl, hname⟩ := matches_sequence_word.mp h
  obtain ⟨name, q, us, xs, rfl, rfl, hsemicolon⟩ := matches_sequence_name.mp hname
  obtain ⟨s, us, rfl, hend⟩ := matches_sequence_mark.mp hsemicolon
  obtain ⟨rfl, rfl⟩ := matches_sequence_nil.mp hend
  exact .of_node (by simp [bodyRules]) rfl (.struct .unit)

theorem enumDecl_meaning (h : Matches Meaning (production .enumDecl) ts children) :
    Meaning .enumDecl ts [.node .enumDecl (ts.head?.map Token.position) children] := by
  intro attributes
  obtain ⟨p, us, rfl, hname⟩ := matches_sequence_word.mp h
  obtain ⟨name, q, us, xs, rfl, rfl, hlist⟩ := matches_sequence_name.mp hname
  obtain ⟨hall, variants, hbs, hs⟩ : BuildsAll [.variant] buildVariant
      (Enclosed .openBrace .closeBrace VariantPhrase) us xs :=
    builds_enclosed (fun _ _ => matches_rule.mp) (matches_sequence_singleton.mp hlist)
  refine .of_node (by simp [bodyRules]) ?_ (.enum hs)
  have hread : buildItems .variant buildVariant
      (.node .enumDecl (some p) (.leaf ⟨.name name, q⟩ :: xs)) = .ok variants := by
    rw [buildItems, Tree.children, List.filter_cons, hall.filter (by decide)]
    exact hbs
  unfold buildBody
  exact bind_eq_ok_iff.mpr ⟨_, rfl, bind_eq_ok_iff.mpr ⟨variants, hread, rfl⟩⟩

theorem declaration_meaning (h : Matches Meaning (production .declaration) ts children) :
    Meaning .declaration ts [.node .declaration location children] := by
  obtain ⟨as, us, ax, xs, rfl, rfl, hattributes, hrest⟩ := matches_sequence_cons.mp h
  obtain ⟨vs, us, vx, xs, rfl, rfl, hvis, hbody⟩ := matches_sequence_cons.mp hrest
  obtain ⟨attributes, visible, has, hvs, hmarks, hattributes⟩ := marks_meaning hattributes hvis
  have hbody : Meaning .declBody us xs := matches_rule.mp (matches_sequence_singleton.mp hbody)
  obtain ⟨t, d, rfl, ht, hb, hs⟩ := hbody attributes
  rw [← List.append_assoc, ← List.append_assoc]
  have hfound : (ax ++ vx ++ [t]).find? isBody = some t := by
    have htest : isBody t = true := ht.isA (by decide)
    rw [List.find?_append, hmarks.find?_none (by decide), List.find?_singleton, htest]
    rfl
  have hother : isOf .outerAttr t = false := ht.not_isA (by decide)
  refine .of_node (by simp) ?_ (.mk has hvs hs)
  rw [buildDeclaration, Tree.children, hfound, hattributes _ _ _ (by simp [hother])]
  exact hb

theorem start_meaning (h : Matches Meaning (production .start) ts children) :
    Meaning .start ts [.node .start location children] := by
  obtain ⟨hall, ds, hbs, hs⟩ := builds_many (fun _ _ => matches_rule.mp) h
  refine .of_node (by simp) ?_ hs
  rw [buildDeclarations, Tree.children, hall.filter (by decide), hbs]

end Declarations

/-- What one of the rules derives may stand for their choice, if that means the same. -/
theorem meaning_of_oneOf {r : Rule} {ts : List Token} {xs : List Tree} (rules : List Rule)
    (hr : ∀ s ∈ rules, Meaning s ts xs → Meaning r ts xs)
    (h : Matches Meaning (.oneOf (rules.map .rule)) ts xs) : Meaning r ts xs := by
  obtain ⟨q, hq, hmatch⟩ := matches_oneOf.mp h
  obtain ⟨s, hs, rfl⟩ := List.mem_map.mp hq
  exact hr s hs (matches_rule.mp hmatch)

/-- Every production keeps the meaning. -/
theorem meaning_of_production (r : Rule) (ts : List Token) (children : List Tree)
    (h : Matches Meaning (production r) ts children) : Meaning r ts (r.trees ts children) := by
  cases r with
  | start => exact start_meaning h
  | declaration => exact declaration_meaning h
  | declBody => exact meaning_of_oneOf bodyRules (by simp [bodyRules, Meaning]) h
  | structNamed => exact structNamed_meaning h
  | structTuple => exact structTuple_meaning h
  | structUnit => exact structUnit_meaning h
  | unionDecl => exact unionDecl_meaning h
  | enumDecl => exact enumDecl_meaning h
  | variant => exact variant_meaning h
  | namedFields => exact namedFields_meaning h
  | namedField => exact namedField_meaning h
  | tupleFields => exact tupleFields_meaning h
  | tupleField => exact tupleField_meaning h
  | vis =>
    obtain ⟨p, rfl, rfl⟩ := matches_word.mp h
    exact ⟨_, rfl, ⟨.vis, by simp, rfl⟩, p, rfl⟩
  | outerAttr => exact outerAttr_meaning h
  | attrPath => exact attrPath_meaning h
  | attrInput => exact meaning_of_oneOf inputRules (by simp [inputRules, Meaning]) h
  | attrArgs => exact attrArgs_meaning h
  | attrValue => exact attrValue_meaning h
  | attrToken =>
    have hliteral : Meaning .attrLiteral ts children → Meaning .attrToken ts children :=
      fun hl => Builds.imp hl (by simp [attrTokenRules]) fun _ => .literal
    change Meaning .attrToken ts children
    exact meaning_of_oneOf attrTokenRules (by simpa [attrTokenRules, Meaning] using hliteral) h
  | attrIdent => exact attrIdent_meaning h
  | attrLiteral => exact attrLiteral_meaning h
  | attrGroup => exact attrGroup_meaning h
  | attrPunct => exact attrPunct_meaning h
  | typeExpr => exact meaning_of_oneOf typeRules (by simp [typeRules, Meaning]) h
  | pathType => exact pathType_meaning h
  | pathSegment => exact pathSegment_meaning h
  | genericArgs => exact genericArgs_meaning h
  | genericArg => exact meaning_of_oneOf argumentRules (by simp [argumentRules, Meaning]) h
  | typeArg => exact typeArg_meaning h
  | lifetimeArg => exact lifetimeArg_meaning h
  | constArg => exact constArg_meaning h
  | refType => exact refType_meaning h
  | mutable =>
    obtain ⟨p, rfl, rfl⟩ := matches_word.mp h
    exact ⟨_, rfl, ⟨.mutable, by simp, rfl⟩, p, rfl⟩
  | tupleType => exact tupleType_meaning h
  | arrayType => exact arrayType_meaning h

/-- Declarations are built from every tree of a text, and the tokens of the text stand for them. -/
theorem exists_start_of_derives {ts : List Token} {xs : List Tree} (h : Derives .start ts xs) :
    ∃ t ds, xs = [t] ∧ buildDeclarations t = .ok ds ∧ Start ts ds := by
  obtain ⟨t, ds, hx, _, hb, hs⟩ : Meaning .start ts xs := Derives.induct meaning_of_production h
  exact ⟨t, ds, hx, hb, hs⟩

end RecordBuilders.Syntax.Concrete
