import RecordBuilders.Syntax.Declaration
import RecordBuilders.Syntax.Token

/-! The grammar of declarations. A phrase is a stretch of tokens together with what it stands for;
each constructor below is a production. Nothing is said of how phrases are found in a text. -/
namespace RecordBuilders.Syntax.Grammar
open Text

section Repetition
variable {α : Type}

/-- `item*` -/
inductive Many (Item : List Token → α → Prop) : List Token → List α → Prop where
  | nil : Many Item [] []
  | cons {ts us : List Token} {a : α} {as : List α} (head : Item ts a) (tail : Many Item us as) :
      Many Item (ts ++ us) (a :: as)

/-- `item ("," item)* ","?` -/
inductive CommaItems (Item : List Token → α → Prop) : List Token → List α → Prop where
  | last {ts : List Token} {a : α} (head : Item ts a) : CommaItems Item ts [a]
  | lastComma {ts : List Token} {a : α} {p : Position} (head : Item ts a) :
      CommaItems Item (ts ++ [⟨.symbol .comma, p⟩]) [a]
  | cons {ts us : List Token} {a : α} {as : List α} {p : Position} (head : Item ts a)
      (tail : CommaItems Item us as) :
      CommaItems Item (ts ++ ⟨.symbol .comma, p⟩ :: us) (a :: as)

/-- `opening [item ("," item)* ","?] closing` -/
inductive Enclosed (opening closing : Symbol) (Item : List Token → α → Prop) :
    List Token → List α → Prop where
  | empty {p q : Position} :
      Enclosed opening closing Item [⟨.symbol opening, p⟩, ⟨.symbol closing, q⟩] []
  | items {ts : List Token} {as : List α} {p q : Position} (items : CommaItems Item ts as) :
      Enclosed opening closing Item
        (⟨.symbol opening, p⟩ :: (ts ++ [⟨.symbol closing, q⟩])) as

end Repetition

/-- `word?` -/
inductive OptionalWord (word : Keyword) : List Token → Bool → Prop where
  | absent : OptionalWord word [] false
  | present {p : Position} : OptionalWord word [⟨.keyword word, p⟩] true

/-- `LIFETIME?` -/
inductive OptionalLifetime : List Token → Option String → Prop where
  | absent : OptionalLifetime [] none
  | present {name : String} {p : Position} : OptionalLifetime [⟨.lifetime name, p⟩] (some name)

section Types

mutual

inductive TypePhrase : List Token → TypeExpr → Prop where
  | path {ts us : List Token} {first : Segment} {others : List Segment}
      (head : SegmentPhrase ts first) (tail : Many NextSegment us others) :
      TypePhrase (ts ++ us) (.path (first :: others))
  | reference {ls ms ts : List Token} {lifetime : Option String} {mutable : Bool}
      {referent : TypeExpr} {p : Position} (name : OptionalLifetime ls lifetime)
      (word : OptionalWord .mut ms mutable) (type : TypePhrase ts referent) :
      TypePhrase (⟨.symbol .ampersand, p⟩ :: (ls ++ ms ++ ts))
        (.reference lifetime mutable referent)
  | tuple {ts : List Token} {elements : List TypeExpr}
      (types : Enclosed .openParen .closeParen TypePhrase ts elements) :
      TypePhrase ts (.tuple elements)
  | array {ts : List Token} {element : TypeExpr} {length : String} {p q r s : Position}
      (type : TypePhrase ts element) :
      TypePhrase (⟨.symbol .openBracket, p⟩ ::
          (ts ++ [⟨.symbol .semicolon, q⟩, ⟨.number length, r⟩, ⟨.symbol .closeBracket, s⟩]))
        (.array element length)

inductive SegmentPhrase : List Token → Segment → Prop where
  | plain {name : String} {p : Position} : SegmentPhrase [⟨.name name, p⟩] (.plain name)
  | applied {name : String} {ts : List Token} {arguments : List GenericArg} {p : Position}
      (list : Enclosed .less .greater ArgumentPhrase ts arguments) :
      SegmentPhrase (⟨.name name, p⟩ :: ts) (.applied name arguments)

/-- `"::" segment` -/
inductive NextSegment : List Token → Segment → Prop where
  | mk {ts : List Token} {s : Segment} {p : Position} (segment : SegmentPhrase ts s) :
      NextSegment (⟨.symbol .pathSep, p⟩ :: ts) s

inductive ArgumentPhrase : List Token → GenericArg → Prop where
  | type {ts : List Token} {t : TypeExpr} (type : TypePhrase ts t) : ArgumentPhrase ts (.type t)
  | lifetime {name : String} {p : Position} :
      ArgumentPhrase [⟨.lifetime name, p⟩] (.lifetime name)
  | const {value : String} {p : Position} : ArgumentPhrase [⟨.number value, p⟩] (.const value)

end

end Types

section Attributes

inductive LiteralPhrase : List Token → AttrToken → Prop where
  | string {text : String} {p : Position} : LiteralPhrase [⟨.string text, p⟩] (.literal text)
  | number {text : String} {p : Position} : LiteralPhrase [⟨.number text, p⟩] (.literal text)

/-- Every symbol but braces and parentheses may stand for itself among the arguments. -/
inductive AttrTokenPhrase : List Token → AttrToken → Prop where
  | word {name : String} {p : Position} : AttrTokenPhrase [⟨.name name, p⟩] (.word name)
  | punct {symbol : Symbol} {p : Position}
      (free : symbol ∉ [.openBrace, .closeBrace, .openParen, .closeParen]) :
      AttrTokenPhrase [⟨.symbol symbol, p⟩] (.punct symbol.text)
  | literal {ts : List Token} {token : AttrToken} (literal : LiteralPhrase ts token) :
      AttrTokenPhrase ts token
  | group {ts : List Token} {tokens : List AttrToken} {p q : Position}
      (list : Many AttrTokenPhrase ts tokens) :
      AttrTokenPhrase (⟨.symbol .openParen, p⟩ :: (ts ++ [⟨.symbol .closeParen, q⟩]))
        (.group tokens)

/-- What stands between the path and the closing bracket. -/
inductive InputPhrase : List Token → AttrInput → Prop where
  | bare : InputPhrase [] .bare
  | arguments {ts : List Token} {tokens : List AttrToken} {p q : Position}
      (list : Many AttrTokenPhrase ts tokens) :
      InputPhrase (⟨.symbol .openParen, p⟩ :: (ts ++ [⟨.symbol .closeParen, q⟩]))
        (.arguments tokens)
  | value {ts : List Token} {token : AttrToken} {p : Position}
      (literal : LiteralPhrase ts token) :
      InputPhrase (⟨.symbol .equal, p⟩ :: ts) (.value token)

/-- `"::" NAME` -/
inductive NextName : List Token → String → Prop where
  | mk {name : String} {p q : Position} :
      NextName [⟨.symbol .pathSep, p⟩, ⟨.name name, q⟩] name

/-- An attribute is placed at its hash sign. -/
inductive AttributePhrase : List Token → Attribute → Prop where
  | mk {ns ts : List Token} {first : String} {others : List String} {input : AttrInput}
      {p q r s : Position} (names : Many NextName ns others) (inside : InputPhrase ts input) :
      AttributePhrase (⟨.symbol .hash, p⟩ :: ⟨.symbol .openBracket, q⟩ :: ⟨.name first, r⟩ ::
          (ns ++ ts ++ [⟨.symbol .closeBracket, s⟩]))
        { path := first :: others, input, location := some p }

end Attributes

section Fields

/-- A named field is placed at its name. -/
inductive NamedFieldPhrase : List Token → Field → Prop where
  | mk {as vs ts : List Token} {annotations : List Attribute} {visible : Bool} {name : String}
      {type : TypeExpr} {p q : Position} (attributes : Many AttributePhrase as annotations)
      (visibility : OptionalWord .pub vs visible) (phrase : TypePhrase ts type) :
      NamedFieldPhrase (as ++ vs ++ ⟨.name name, p⟩ :: ⟨.symbol .colon, q⟩ :: ts)
        { name := some name, type, annotations, location := some p }

/-- A field of a tuple is placed at its first token. -/
inductive TupleFieldPhrase : List Token → Field → Prop where
  | mk {as vs ts : List Token} {annotations : List Attribute} {visible : Bool} {type : TypeExpr}
      (attributes : Many AttributePhrase as annotations)
      (visibility : OptionalWord .pub vs visible) (phrase : TypePhrase ts type) :
      TupleFieldPhrase (as ++ vs ++ ts)
        { type, annotations, location := (as ++ vs ++ ts).head?.map Token.position }

/-- `(named_fields | tuple_fields)?` -/
inductive VariantFields : List Token → List Field → Prop where
  | none : VariantFields [] []
  | named {ts : List Token} {fields : List Field}
      (list : Enclosed .openBrace .closeBrace NamedFieldPhrase ts fields) : VariantFields ts fields
  | tuple {ts : List Token} {fields : List Field}
      (list : Enclosed .openParen .closeParen TupleFieldPhrase ts fields) : VariantFields ts fields

/-- Of a variant only the name is kept. -/
inductive VariantPhrase : List Token → String → Prop where
  | mk {as ts : List Token} {annotations : List Attribute} {fields : List Field} {name : String}
      {p : Position} (attributes : Many AttributePhrase as annotations)
      (fields : VariantFields ts fields) : VariantPhrase (as ++ ⟨.name name, p⟩ :: ts) name

/-- Named fields, or fields of a tuple and a semicolon, or the semicolon alone. -/
inductive StructFields : List Token → List Field → Prop where
  | named {ts : List Token} {fields : List Field}
      (list : Enclosed .openBrace .closeBrace NamedFieldPhrase ts fields) : StructFields ts fields
  | tuple {ts : List Token} {fields : List Field} {p : Position}
      (list : Enclosed .openParen .closeParen TupleFieldPhrase ts fields) :
      StructFields (ts ++ [⟨.symbol .semicolon, p⟩]) fields
  | unit {p : Position} : StructFields [⟨.symbol .semicolon, p⟩] []

end Fields

/-- What a keyword begins: the declaration without its attributes, placed at the keyword. -/
inductive BodyPhrase (attributes : List Attribute) : List Token → Declaration → Prop where
  | struct {ts : List Token} {name : String} {fields : List Field} {p q : Position}
      (inside : StructFields ts fields) :
      BodyPhrase attributes (⟨.keyword .struct, p⟩ :: ⟨.name name, q⟩ :: ts)
        { name, kind := .struct, fields, attributes, location := some p }
  | union {ts : List Token} {name : String} {fields : List Field} {p q : Position}
      (inside : Enclosed .openBrace .closeBrace NamedFieldPhrase ts fields) :
      BodyPhrase attributes (⟨.keyword .union, p⟩ :: ⟨.name name, q⟩ :: ts)
        { name, kind := .union, fields, attributes, location := some p }
  | enum {ts : List Token} {name : String} {variants : List String} {p q : Position}
      (inside : Enclosed .openBrace .closeBrace VariantPhrase ts variants) :
      BodyPhrase attributes (⟨.keyword .enum, p⟩ :: ⟨.name name, q⟩ :: ts)
        { name, kind := .enum, attributes, variants, location := some p }

inductive DeclarationPhrase : List Token → Declaration → Prop where
  | mk {as vs ts : List Token} {attributes : List Attribute} {visible : Bool} {d : Declaration}
      (list : Many AttributePhrase as attributes) (visibility : OptionalWord .pub vs visible)
      (body : BodyPhrase attributes ts d) : DeclarationPhrase (as ++ vs ++ ts) d

/-- `declaration*` -/
abbrev Start : List Token → List Declaration → Prop := Many DeclarationPhrase

section Induction
variable {M : List Token → TypeExpr → Prop} {S : List Token → Segment → Prop}
  {A : List Token → GenericArg → Prop}

/-- What every production keeps holds of all types. In the lists that a production names, what is
known of the items stands in the place of their phrases. -/
theorem TypePhrase.induct
    (path : ∀ ts us first others, S ts first →
      Many (fun us s => ∃ p vs, us = ⟨.symbol .pathSep, p⟩ :: vs ∧ S vs s) us others →
      M (ts ++ us) (.path (first :: others)))
    (reference : ∀ ls ms ts lifetime mutable referent p, OptionalLifetime ls lifetime →
      OptionalWord .mut ms mutable → M ts referent →
      M (⟨.symbol .ampersand, p⟩ :: (ls ++ ms ++ ts)) (.reference lifetime mutable referent))
    (tuple : ∀ ts elements, Enclosed .openParen .closeParen M ts elements → M ts (.tuple elements))
    (array : ∀ ts element length p q r s, M ts element →
      M (⟨.symbol .openBracket, p⟩ ::
          (ts ++ [⟨.symbol .semicolon, q⟩, ⟨.number length, r⟩, ⟨.symbol .closeBracket, s⟩]))
        (.array element length))
    (plain : ∀ name p, S [⟨.name name, p⟩] (.plain name))
    (applied : ∀ name ts arguments p, Enclosed .less .greater A ts arguments →
      S (⟨.name name, p⟩ :: ts) (.applied name arguments))
    (type : ∀ ts t, M ts t → A ts (.type t))
    (lifetime : ∀ name p, A [⟨.lifetime name, p⟩] (.lifetime name))
    (const : ∀ value p, A [⟨.number value, p⟩] (.const value))
    {ts : List Token} {t : TypeExpr} (h : TypePhrase ts t) : M ts t := by
  refine @TypePhrase.rec (fun ts t _ => M ts t) (fun ts s _ => S ts s)
    (fun us s _ => ∃ p vs, us = ⟨.symbol .pathSep, p⟩ :: vs ∧ S vs s) (fun ts a _ => A ts a)
    (fun us ss _ => Many (fun us s => ∃ p vs, us = ⟨.symbol .pathSep, p⟩ :: vs ∧ S vs s) us ss)
    (fun ts types _ => Enclosed .openParen .closeParen M ts types)
    (fun ts arguments _ => Enclosed .less .greater A ts arguments)
    (fun ts types _ => CommaItems M ts types) (fun ts arguments _ => CommaItems A ts arguments)
    ?_ ?_ ?_ ?_ (plain _ _) ?_ ?_ ?_ (lifetime _ _) (const _ _)
    .nil ?_ .empty ?_ .empty ?_ ?_ ?_ ?_ ?_ ?_ ?_ _ _ h
  · exact fun _ _ hs hss => path _ _ _ _ hs hss
  · exact fun hl hm _ ht => reference _ _ _ _ _ _ _ hl hm ht
  · exact fun _ hts => tuple _ _ hts
  · exact fun _ ht => array _ _ _ _ _ _ _ ht
  · exact fun _ has => applied _ _ _ _ has
  · exact fun _ hs => ⟨_, _, rfl, hs⟩
  · exact fun _ ht => type _ _ ht
  · exact fun _ _ hs hss => .cons hs hss
  · exact fun _ hts => .items hts
  · exact fun _ has => .items has
  · exact fun _ ht => .last ht
  · exact fun _ ht => .lastComma ht
  · exact fun _ _ ht hts => .cons ht hts
  · exact fun _ ha => .last ha
  · exact fun _ ha => .lastComma ha
  · exact fun _ _ ha has => .cons ha has

/-- The same for what stands among the arguments of an attribute. -/
theorem AttrTokenPhrase.induct {M : List Token → AttrToken → Prop}
    (word : ∀ name p, M [⟨.name name, p⟩] (.word name))
    (punct : ∀ symbol p, symbol ∉ [.openBrace, .closeBrace, .openParen, .closeParen] →
      M [⟨.symbol symbol, p⟩] (.punct symbol.text))
    (literal : ∀ ts token, LiteralPhrase ts token → M ts token)
    (group : ∀ ts tokens p q, Many M ts tokens →
      M (⟨.symbol .openParen, p⟩ :: (ts ++ [⟨.symbol .closeParen, q⟩])) (.group tokens))
    {ts : List Token} {token : AttrToken} (h : AttrTokenPhrase ts token) : M ts token := by
  refine @AttrTokenPhrase.rec (fun ts token _ => M ts token) (fun ts tokens _ => Many M ts tokens)
    (word _ _) (punct _ _) (literal _ _) ?_ .nil ?_ _ _ h
  · exact fun _ hts => group _ _ _ _ hts
  · exact fun _ _ ht hts => .cons ht hts

end Induction

end RecordBuilders.Syntax.Grammar
