import RecordBuilders.Target.Code.Fault

/-! What code is made of, as far as its legality depends on it: expressions, and the places where
names are bound. -/
namespace RecordBuilders.Target.Code

inductive Form where
  | name (text : String)
  | member | subscript | call
  | constant (word : String)
  | literal | formatted | ellipsis
  | list | tuple | generator | listComprehension
  | dict | dictComprehension | set | setComprehension
  | lambda | conditional
  | comparison (isMembership : Bool)
  | operation | await | yield | named | starred
  | argument | unpacked | entry | clause
  | parameter | rest | fallback | hint | body
  | method | block | symbol (text : String)
  deriving Repr, DecidableEq

/-- The word for an expression in messages. -/
def Form.text : Form → String
  | .name _ => "name"
  | .member => "attribute"
  | .subscript => "subscript"
  | .call => "function call"
  | .constant word => word
  | .literal => "literal"
  | .formatted => "f-string expression"
  | .ellipsis => "ellipsis"
  | .list => "list"
  | .tuple => "tuple"
  | .generator => "generator expression"
  | .listComprehension => "list comprehension"
  | .dict => "dict literal"
  | .dictComprehension => "dict comprehension"
  | .set => "set display"
  | .setComprehension => "set comprehension"
  | .lambda => "lambda"
  | .conditional => "conditional expression"
  | .comparison _ => "comparison"
  | .operation => "expression"
  | .await => "await expression"
  | .yield => "yield expression"
  | .named => "named expression"
  | .starred => "starred"
  | _ => ""

/-- A part of the code, the line on which it begins, and its own parts. -/
inductive Tree where
  | node (form : Form) (line : Nat) (parts : List Tree)

namespace Tree

def form : Tree → Form
  | .node form _ _ => form

def line : Tree → Nat
  | .node _ line _ => line

def parts : Tree → List Tree
  | .node _ _ parts => parts

def name? (t : Tree) : Option String :=
  match t.form with
  | .name text => some text
  | _ => none

end Tree

/-- What a target is for. -/
inductive TargetUse where
  | assignment
  | iteration
  | deletion
  deriving Repr, DecidableEq

mutual

/-- The first part that keeps an expression from being a target. The target of an iteration may have
been read as the left side of a comparison. -/
def Tree.misfit? (use : TargetUse) : Tree → Option Tree
  | .node form line parts =>
    match form with
    | .name _ | .member | .subscript => none
    | .list | .tuple => misfitWithin? use parts
    | .starred =>
      if use = .deletion then some (.node form line parts) else misfitWithin? use parts
    | .comparison isMembership =>
      if use ≠ .iteration then some (.node form line parts)
      else if isMembership then leftMisfit? use parts
      else none
    | _ => some (.node form line parts)

def misfitWithin? (use : TargetUse) : List Tree → Option Tree
  | [] => none
  | t :: ts => t.misfit? use <|> misfitWithin? use ts

def leftMisfit? (use : TargetUse) : List Tree → Option Tree
  | [] => none
  | t :: _ => t.misfit? use

end

end RecordBuilders.Target.Code
