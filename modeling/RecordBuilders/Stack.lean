import RecordBuilders.Config.Basic
import RecordBuilders.Syntax.Declaration

/-! The room that nested input takes. Types, attribute arguments and JSON values are gone through by
functions that call themselves, and the stack of the machine may have no room for so many calls at
once. How many there are to a level of nesting is a matter of the machine, too. -/
namespace RecordBuilders
open Syntax

namespace Syntax

mutual

/-- How many types lie one within the other. -/
def TypeExpr.nesting : TypeExpr → Nat
  | .path segments => Segment.nestings segments + 1
  | .reference _ _ referent => referent.nesting + 1
  | .tuple elements => TypeExpr.nestings elements + 1
  | .array element _ => element.nesting + 1
  | .absent => 0

def TypeExpr.nestings : List TypeExpr → Nat
  | [] => 0
  | type :: types => max type.nesting (TypeExpr.nestings types)

def Segment.nesting : Segment → Nat
  | .plain _ => 0
  | .applied _ arguments => GenericArg.nestings arguments

def Segment.nestings : List Segment → Nat
  | [] => 0
  | segment :: segments => max segment.nesting (Segment.nestings segments)

def GenericArg.nesting : GenericArg → Nat
  | .type type => type.nesting
  | .lifetime _ | .const _ => 0

def GenericArg.nestings : List GenericArg → Nat
  | [] => 0
  | argument :: arguments => max argument.nesting (GenericArg.nestings arguments)

end

mutual

/-- How many groups lie one within the other. -/
def AttrToken.nesting : AttrToken → Nat
  | .group tokens => AttrToken.nestings tokens + 1
  | .word _ | .punct _ | .literal _ | .other _ => 0

def AttrToken.nestings : List AttrToken → Nat
  | [] => 0
  | token :: tokens => max token.nesting (AttrToken.nestings tokens)

end

def Attribute.nesting (a : Attribute) : Nat :=
  match a.input with
  | .bare => 0
  | .arguments tokens => AttrToken.nestings tokens
  | .value literal => literal.nesting

/-- No type or attribute of the declaration is nested deeper. -/
def Declaration.nestsWithin (depth : Nat) (d : Declaration) : Bool :=
  d.attributes.all (·.nesting ≤ depth) &&
    d.fields.all fun f => decide (f.type.nesting ≤ depth) && f.annotations.all (·.nesting ≤ depth)

end Syntax

/-- How many brackets are open at once in a JSON text, if `level` of them are at its front. Those in
strings do not count. -/
def Json.nesting (level : Nat) (inString : Bool) : List Char → Nat
  | [] => level
  | '\\' :: _ :: cs => Json.nesting level inString cs
  | c :: cs =>
    if c = '"' then Json.nesting level (!inString) cs
    else if inString then Json.nesting level true cs
    else if c = '[' ∨ c = '\x7b' then max level (Json.nesting (level + 1) false cs)
    else if c = ']' ∨ c = '\x7d' then max level (Json.nesting (level - 1) false cs)
    else Json.nesting level false cs

/-- What the machine has room for: declarations that are built from syntax trees, declarations that
classes are generated for, and JSON texts. There is always room for what is nested at most `depth`
levels deep. -/
structure Stack where
  depth : Nat
  builds : Declaration → Bool
  derives : Config → Declaration → Bool
  decodes : List Char → Bool
  builds_shallow : ∀ d, d.nestsWithin depth = true → builds d = true
  derives_shallow : ∀ c d, d.nestsWithin depth = true → derives c d = true
  decodes_shallow : ∀ text, Json.nesting 0 false text ≤ depth → decodes text = true

/-- A stack with room for a number of levels, and for no more of them. -/
def Stack.ofDepth (depth : Nat) : Stack where
  depth
  builds := Declaration.nestsWithin depth
  derives _ := Declaration.nestsWithin depth
  decodes text := Json.nesting 0 false text ≤ depth
  builds_shallow _ h := h
  derives_shallow _ _ h := h
  decodes_shallow _ h := decide_eq_true h

theorem Stack.deep_of_builds {s : Stack} {d : Declaration} (h : s.builds d = false) :
    d.nestsWithin s.depth = false :=
  Bool.eq_false_iff.mpr fun hd => by cases h.symm.trans (s.builds_shallow d hd)

theorem Stack.deep_of_derives {s : Stack} {c : Config} {d : Declaration}
    (h : s.derives c d = false) : d.nestsWithin s.depth = false :=
  Bool.eq_false_iff.mpr fun hd => by cases h.symm.trans (s.derives_shallow c d hd)

/-- There was no room for a call. -/
structure StackOverflow where
  deriving Repr, DecidableEq

def StackOverflow.message : String := "maximum recursion depth exceeded"

end RecordBuilders
