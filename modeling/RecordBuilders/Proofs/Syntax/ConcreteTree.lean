import RecordBuilders.Syntax.Token

/-! Concrete trees of the declaration language. The grammar is a table of patterns, one for each
rule; a tree has a node for each rule that took part in deriving the tokens. Tokens that a pattern
quotes leave no trace in the tree, and neither do the rules that only choose among others. -/
namespace RecordBuilders.Syntax.Concrete
open Text

inductive Rule where
  | start | declaration | declBody | structNamed | structTuple | structUnit | unionDecl | enumDecl
  | variant | namedFields | namedField | tupleFields | tupleField | vis
  | outerAttr | attrPath | attrInput | attrArgs | attrValue
  | attrToken | attrIdent | attrLiteral | attrGroup | attrPunct
  | typeExpr | pathType | pathSegment | genericArgs | genericArg | typeArg | lifetimeArg | constArg
  | refType | mutable | tupleType | arrayType
  deriving Repr, DecidableEq

/-- A rule without a node of its own: what it derives stands in its place. -/
def Rule.isInlined : Rule → Bool
  | .declBody | .attrInput | .attrToken | .typeExpr | .genericArg => true
  | _ => false

/-- The tokens that a pattern does not quote but only describe. -/
inductive TokenClass where
  | name | lifetime | string | number
  deriving Repr, DecidableEq

def TokenClass.lexeme : TokenClass → String → Lexeme
  | .name => .name
  | .lifetime => .lifetime
  | .string => .string
  | .number => .number

def TokenClass.holds : TokenClass → Lexeme → Bool
  | .name, .name _ | .lifetime, .lifetime _ | .string, .string _ | .number, .number _ => true
  | _, _ => false

inductive Pattern where
  | token (kind : TokenClass)
  | quoted (lexeme : Lexeme)
  /-- A quoted symbol of a rule that keeps all of its tokens. -/
  | kept (symbol : Symbol)
  | rule (rule : Rule)
  | nothing
  | never
  | seq (first second : Pattern)
  | either (left right : Pattern)
  | many (item : Pattern)

namespace Pattern

def word (k : Keyword) : Pattern := quoted (.keyword k)

def mark (s : Symbol) : Pattern := quoted (.symbol s)

def sequence : List Pattern → Pattern
  | [] => nothing
  | p :: ps => seq p (sequence ps)

def oneOf : List Pattern → Pattern
  | [] => never
  | p :: ps => either p (oneOf ps)

def maybe (p : Pattern) : Pattern := either p nothing

/-- `opening [item ("," item)* ","?] closing` -/
def enclosed (opening closing : Symbol) (item : Pattern) : Pattern :=
  sequence [mark opening,
    maybe (sequence [item, many (sequence [mark .comma, item]), maybe (mark .comma)]),
    mark closing]

end Pattern

/-- The symbols that may stand for themselves among the arguments of an attribute. -/
def punctuation : List Symbol :=
  [.equal, .comma, .colon, .pathSep, .semicolon, .less, .greater, .ampersand, .dot, .minus, .plus,
    .star, .slash, .bang, .question, .at, .bar, .hash, .openBracket, .closeBracket]

section Table
open Pattern

def production : Rule → Pattern
  | .start => many (rule .declaration)
  | .declaration => sequence [many (rule .outerAttr), maybe (rule .vis), rule .declBody]
  | .declBody => oneOf [rule .structNamed, rule .structTuple, rule .structUnit, rule .enumDecl,
      rule .unionDecl]
  | .structNamed => sequence [word .struct, token .name, rule .namedFields]
  | .structTuple => sequence [word .struct, token .name, rule .tupleFields, mark .semicolon]
  | .structUnit => sequence [word .struct, token .name, mark .semicolon]
  | .unionDecl => sequence [word .union, token .name, rule .namedFields]
  | .enumDecl =>
    sequence [word .enum, token .name, enclosed .openBrace .closeBrace (rule .variant)]
  | .variant => sequence [many (rule .outerAttr), token .name,
      maybe (oneOf [rule .namedFields, rule .tupleFields])]
  | .namedFields => enclosed .openBrace .closeBrace (rule .namedField)
  | .namedField => sequence [many (rule .outerAttr), maybe (rule .vis), token .name, mark .colon,
      rule .typeExpr]
  | .tupleFields => enclosed .openParen .closeParen (rule .tupleField)
  | .tupleField => sequence [many (rule .outerAttr), maybe (rule .vis), rule .typeExpr]
  | .vis => word .pub
  | .outerAttr => sequence [mark .hash, mark .openBracket, rule .attrPath, maybe (rule .attrInput),
      mark .closeBracket]
  | .attrPath => sequence [token .name, many (sequence [mark .pathSep, token .name])]
  | .attrInput => oneOf [rule .attrArgs, rule .attrValue]
  | .attrArgs => sequence [mark .openParen, many (rule .attrToken), mark .closeParen]
  | .attrValue => sequence [mark .equal, rule .attrLiteral]
  | .attrToken => oneOf [rule .attrIdent, rule .attrPunct, rule .attrLiteral, rule .attrGroup]
  | .attrIdent => token .name
  | .attrLiteral => oneOf [token .string, token .number]
  | .attrGroup => sequence [mark .openParen, many (rule .attrToken), mark .closeParen]
  | .attrPunct => oneOf (punctuation.map kept)
  | .typeExpr => oneOf [rule .pathType, rule .refType, rule .tupleType, rule .arrayType]
  | .pathType => sequence [rule .pathSegment, many (sequence [mark .pathSep, rule .pathSegment])]
  | .pathSegment => sequence [token .name, maybe (rule .genericArgs)]
  | .genericArgs => enclosed .less .greater (rule .genericArg)
  | .genericArg => oneOf [rule .typeArg, rule .lifetimeArg, rule .constArg]
  | .typeArg => rule .typeExpr
  | .lifetimeArg => token .lifetime
  | .constArg => token .number
  | .refType => sequence [mark .ampersand, maybe (token .lifetime), maybe (rule .mutable),
      rule .typeExpr]
  | .mutable => word .mut
  | .tupleType => enclosed .openParen .closeParen (rule .typeExpr)
  | .arrayType => sequence [mark .openBracket, rule .typeExpr, mark .semicolon, token .number,
      mark .closeBracket]

end Table

inductive Tree where
  | leaf (token : Token)
  | node (rule : Rule) (location : Option Position) (children : List Tree)
  deriving Repr

namespace Tree

def rule? : Tree → Option Rule
  | .leaf _ => none
  | .node rule _ _ => some rule

def token? : Tree → Option Token
  | .leaf token => some token
  | .node .. => none

def location : Tree → Option Position
  | .leaf token => some token.position
  | .node _ location _ => location

def children : Tree → List Tree
  | .leaf _ => []
  | .node _ _ children => children

end Tree

/-- What a rule puts in its place. A node is placed at the first of its tokens, also if that token
leaves no trace. -/
def Rule.trees (r : Rule) (tokens : List Token) (children : List Tree) : List Tree :=
  if r.isInlined then children else [.node r (tokens.head?.map Token.position) children]

/-- The tokens and trees of a pattern, if `R` tells what the rules derive. -/
inductive Matches (R : Rule → List Token → List Tree → Prop) :
    Pattern → List Token → List Tree → Prop where
  | token {kind : TokenClass} {text : String} {p : Position} :
      Matches R (.token kind) [⟨kind.lexeme text, p⟩] [.leaf ⟨kind.lexeme text, p⟩]
  | quoted {lexeme : Lexeme} {p : Position} : Matches R (.quoted lexeme) [⟨lexeme, p⟩] []
  | kept {symbol : Symbol} {p : Position} :
      Matches R (.kept symbol) [⟨.symbol symbol, p⟩] [.leaf ⟨.symbol symbol, p⟩]
  | rule {r : Rule} {ts : List Token} {xs : List Tree} (derived : R r ts xs) :
      Matches R (.rule r) ts xs
  | nothing : Matches R .nothing [] []
  | seq {p q : Pattern} {ts us : List Token} {xs ys : List Tree} (first : Matches R p ts xs)
      (second : Matches R q us ys) : Matches R (.seq p q) (ts ++ us) (xs ++ ys)
  | left {p q : Pattern} {ts : List Token} {xs : List Tree} (taken : Matches R p ts xs) :
      Matches R (.either p q) ts xs
  | right {p q : Pattern} {ts : List Token} {xs : List Tree} (taken : Matches R q ts xs) :
      Matches R (.either p q) ts xs
  | manyNil {p : Pattern} : Matches R (.many p) [] []
  | manyCons {p : Pattern} {ts us : List Token} {xs ys : List Tree} (head : Matches R p ts xs)
      (tail : Matches R (.many p) us ys) : Matches R (.many p) (ts ++ us) (xs ++ ys)

/-- The tokens and trees that the grammar derives from a rule. -/
inductive Derives : Rule → List Token → List Tree → Prop where
  | mk {r : Rule} {ts : List Token} {children : List Tree}
      (body : Matches Derives (production r) ts children) : Derives r ts (r.trees ts children)

/-- What every production keeps holds of all that is derived. -/
theorem Derives.induct {M : Rule → List Token → List Tree → Prop}
    (step : ∀ r ts children, Matches M (production r) ts children → M r ts (r.trees ts children))
    {r : Rule} {ts : List Token} {xs : List Tree} (h : Derives r ts xs) : M r ts xs := by
  refine @Derives.rec (fun r ts xs _ => M r ts xs) (fun p ts xs _ => Matches M p ts xs)
    ?_ .token .quoted .kept ?_ .nothing ?_ ?_ ?_ .manyNil ?_ _ _ _ h
  · intro r ts children _ ih
    exact step r ts children ih
  · intro r ts xs _ ih
    exact .rule ih
  · intro p q ts us xs ys _ _ ih ih'
    exact .seq ih ih'
  · intro p q ts xs _ ih
    exact .left ih
  · intro p q ts xs _ ih
    exact .right ih
  · intro p ts us xs ys _ _ ih ih'
    exact .manyCons ih ih'

section Inversion
variable {R : Rule → List Token → List Tree → Prop} {p q : Pattern} {ts : List Token}
  {xs : List Tree}

@[simp] theorem matches_token {kind : TokenClass} : Matches R (.token kind) ts xs ↔
    ∃ text p, ts = [⟨kind.lexeme text, p⟩] ∧ xs = [.leaf ⟨kind.lexeme text, p⟩] := by
  constructor
  · rintro ⟨⟩
    exact ⟨_, _, rfl, rfl⟩
  · rintro ⟨text, p, rfl, rfl⟩
    exact .token

@[simp] theorem matches_quoted {lexeme : Lexeme} : Matches R (.quoted lexeme) ts xs ↔
    ∃ p, ts = [⟨lexeme, p⟩] ∧ xs = [] := by
  constructor
  · rintro ⟨⟩
    exact ⟨_, rfl, rfl⟩
  · rintro ⟨p, rfl, rfl⟩
    exact .quoted

@[simp] theorem matches_word {k : Keyword} : Matches R (.word k) ts xs ↔
    ∃ p, ts = [⟨.keyword k, p⟩] ∧ xs = [] := matches_quoted

@[simp] theorem matches_mark {s : Symbol} : Matches R (.mark s) ts xs ↔
    ∃ p, ts = [⟨.symbol s, p⟩] ∧ xs = [] := matches_quoted

@[simp] theorem matches_kept {s : Symbol} : Matches R (.kept s) ts xs ↔
    ∃ p, ts = [⟨.symbol s, p⟩] ∧ xs = [.leaf ⟨.symbol s, p⟩] := by
  constructor
  · rintro ⟨⟩
    exact ⟨_, rfl, rfl⟩
  · rintro ⟨p, rfl, rfl⟩
    exact .kept

@[simp] theorem matches_rule {r : Rule} : Matches R (.rule r) ts xs ↔ R r ts xs :=
  ⟨fun | .rule derived => derived, .rule⟩

@[simp] theorem matches_nothing : Matches R .nothing ts xs ↔ ts = [] ∧ xs = [] := by
  constructor
  · rintro ⟨⟩
    exact ⟨rfl, rfl⟩
  · rintro ⟨rfl, rfl⟩
    exact .nothing

@[simp] theorem matches_either :
    Matches R (.either p q) ts xs ↔ Matches R p ts xs ∨ Matches R q ts xs := by
  constructor
  · intro h
    cases h with
    | left taken => exact Or.inl taken
    | right taken => exact Or.inr taken
  · exact Or.rec .left .right

@[simp] theorem matches_maybe :
    Matches R (.maybe p) ts xs ↔ Matches R p ts xs ∨ ts = [] ∧ xs = [] := by
  rw [Pattern.maybe, matches_either, matches_nothing]

theorem matches_oneOf {ps : List Pattern} :
    Matches R (.oneOf ps) ts xs ↔ ∃ p ∈ ps, Matches R p ts xs := by
  induction ps with
  | nil =>
    refine iff_of_false ?_ (by simp)
    rintro ⟨⟩
  | cons p ps ih => simp [Pattern.oneOf, ih]

theorem matches_seq : Matches R (.seq p q) ts xs ↔
    ∃ us vs ys zs, ts = us ++ vs ∧ xs = ys ++ zs ∧ Matches R p us ys ∧ Matches R q vs zs := by
  constructor
  · intro h
    cases h with
    | seq first second => exact ⟨_, _, _, _, rfl, rfl, first, second⟩
  · rintro ⟨us, vs, ys, zs, rfl, rfl, first, second⟩
    exact .seq first second

section Sequences
variable {ps : List Pattern}

theorem matches_sequence_nil : Matches R (.sequence []) ts xs ↔ ts = [] ∧ xs = [] :=
  matches_nothing

theorem matches_sequence_cons : Matches R (.sequence (p :: ps)) ts xs ↔
    ∃ us vs ys zs, ts = us ++ vs ∧ xs = ys ++ zs ∧ Matches R p us ys ∧
      Matches R (.sequence ps) vs zs := matches_seq

theorem matches_sequence_singleton : Matches R (.sequence [p]) ts xs ↔ Matches R p ts xs := by
  rw [matches_sequence_cons]
  constructor
  · rintro ⟨us, vs, ys, zs, rfl, rfl, h, hnil⟩
    obtain ⟨rfl, rfl⟩ := matches_sequence_nil.mp hnil
    simpa using h
  · intro h
    exact ⟨ts, [], xs, [], by simp, by simp, h, .nothing⟩

theorem matches_sequence_quoted {l : Lexeme} : Matches R (.sequence (.quoted l :: ps)) ts xs ↔
    ∃ position us, ts = ⟨l, position⟩ :: us ∧ Matches R (.sequence ps) us xs := by
  rw [matches_sequence_cons]
  constructor
  · rintro ⟨_, us, _, ys, rfl, rfl, hl, h⟩
    obtain ⟨position, rfl, rfl⟩ := matches_quoted.mp hl
    exact ⟨position, us, rfl, h⟩
  · rintro ⟨position, us, rfl, h⟩
    exact ⟨_, us, [], xs, rfl, rfl, .quoted, h⟩

theorem matches_sequence_word {k : Keyword} : Matches R (.sequence (.word k :: ps)) ts xs ↔
    ∃ position us, ts = ⟨.keyword k, position⟩ :: us ∧ Matches R (.sequence ps) us xs :=
  matches_sequence_quoted

theorem matches_sequence_mark {s : Symbol} : Matches R (.sequence (.mark s :: ps)) ts xs ↔
    ∃ position us, ts = ⟨.symbol s, position⟩ :: us ∧ Matches R (.sequence ps) us xs :=
  matches_sequence_quoted

theorem matches_sequence_token {kind : TokenClass} :
    Matches R (.sequence (.token kind :: ps)) ts xs ↔
      ∃ text position us ys, ts = ⟨kind.lexeme text, position⟩ :: us ∧
        xs = .leaf ⟨kind.lexeme text, position⟩ :: ys ∧ Matches R (.sequence ps) us ys := by
  rw [matches_sequence_cons]
  constructor
  · rintro ⟨_, us, _, ys, rfl, rfl, ht, h⟩
    obtain ⟨text, position, rfl, rfl⟩ := matches_token.mp ht
    exact ⟨text, position, us, ys, rfl, rfl, h⟩
  · rintro ⟨text, position, us, ys, rfl, rfl, h⟩
    exact ⟨_, us, _, ys, rfl, rfl, .token, h⟩

theorem matches_sequence_name : Matches R (.sequence (.token .name :: ps)) ts xs ↔
    ∃ name position us ys, ts = ⟨.name name, position⟩ :: us ∧
      xs = .leaf ⟨.name name, position⟩ :: ys ∧ Matches R (.sequence ps) us ys :=
  matches_sequence_token

theorem matches_sequence_number : Matches R (.sequence (.token .number :: ps)) ts xs ↔
    ∃ number position us ys, ts = ⟨.number number, position⟩ :: us ∧
      xs = .leaf ⟨.number number, position⟩ :: ys ∧ Matches R (.sequence ps) us ys :=
  matches_sequence_token

end Sequences

end Inversion

end RecordBuilders.Syntax.Concrete
