import RecordBuilders.Target.Code.Tree
import RecordBuilders.Text.Normalization

/-! What may be done where. Hints are kept as they are and run nothing, so that they must neither wait
nor yield nor name a value; comprehensions bind their own variables. -/
namespace RecordBuilders.Target.Code
open Text

inductive ScopeKind where
  | wholeText
  | block
  | method
  | hint
  | comprehension (form : Form)
  deriving Repr, DecidableEq

/-- A scope, with the variables that a comprehension goes through and the names that are given to
values within it. `isTarget` and `isIterable` say what is being read in it. -/
structure Scope where
  kind : ScopeKind
  iterated : List String := []
  assigned : List String := []
  isTarget : Bool := false
  isIterable : Bool := false
  deriving Repr

/-- The innermost scope comes first. -/
abbrev Scopes := List Scope

namespace Scopes

def innermost (s : Scopes) : Scope := s.head?.getD { kind := .wholeText }

/-- What stands in an iterable stays there, however deep. -/
def enter (s : Scopes) (kind : ScopeKind) : Scopes :=
  { kind, isIterable := s.innermost.isIterable } :: s

def leave (s : Scopes) : Scopes := s.tail

def modify (s : Scopes) (f : Scope → Scope) : Scopes :=
  match s with
  | [] => []
  | scope :: outer => f scope :: outer

def refuseInHint (s : Scopes) (construct : Form) (line : Nat) : Except Fault Unit :=
  if s.innermost.kind = .hint then .error ⟨.deferred construct.text, line⟩ else .ok ()

/-- A name in the target of a comprehension is one of its variables. -/
def iterate (s : Scopes) (name : String) (line : Nat) : Except Fault Scopes :=
  if !s.innermost.isTarget then .ok s
  else if s.innermost.assigned.contains name then .error ⟨.iteratedNamed name, line⟩
  else .ok (s.modify fun scope => { scope with iterated := name :: scope.iterated })

/-- Whether a name can be given to a value within a comprehension. It belongs to the scope around all
comprehensions, and they must not go through it. -/
def namedFault? (name : String) (line : Nat) : Scopes → Option Fault
  | [] => none
  | scope :: outer =>
    match scope.kind with
    | .comprehension _ =>
      if scope.iterated.contains name then some ⟨.namedIterated name, line⟩
      else namedFault? name line outer
    | .hint => namedFault? name line outer
    | .block => some ⟨.namedInClass, line⟩
    | .method | .wholeText => none

/-- Gives a name to a value. Within the target of a comprehension, the name would be one of its
variables. -/
def assign (s : Scopes) (name : String) (line : Nat) : Except Fault Scopes :=
  if s.innermost.isIterable then .error ⟨.namedInIterable, line⟩
  else
    match s.innermost.kind with
    | .comprehension _ =>
      match namedFault? name line s with
      | some fault => .error fault
      | none =>
        if s.innermost.isTarget then .error ⟨.iteratedNamed name, line⟩
        else .ok (s.modify fun scope => { scope with assigned := name :: scope.assigned })
    | _ => .ok s

/-- Looks at an iterable. -/
def inIterable (s : Scopes) (look : Scopes → Except Fault Scopes) : Except Fault Scopes := do
  let wasIterable := s.innermost.isIterable
  let s ← look (s.modify fun scope => { scope with isIterable := true })
  return s.modify fun scope => { scope with isIterable := wasIterable }

/-- Looks at a target. -/
def inTarget (s : Scopes) (look : Scopes → Except Fault Scopes) : Except Fault Scopes := do
  let s ← look (s.modify fun scope => { scope with isTarget := true })
  return s.modify fun scope => { scope with isTarget := false }

def yieldFault? (s : Scopes) (line : Nat) : Option Fault :=
  match s.innermost.kind with
  | .comprehension form => some ⟨.yieldWithin form.text, line⟩
  | _ => none

end Scopes

section Parameters

/-- The names of parameters, of which those that take the rest come last. -/
def parameterNames (parts : List Tree) : List (String × Nat) :=
  let named (t : Tree) : List (String × Nat) :=
    (t.parts.head?.bind Tree.name?).toList.map fun name => (nfkc name, t.line)
  (parts.filter (·.form == .parameter)).flatMap named ++
    (parts.filter (·.form == .rest)).flatMap fun t => t.parts.flatMap named

def repeatedName? : List (String × Nat) → (earlier : List String) → Option Fault
  | [], _ => none
  | (name, line) :: names, earlier =>
    if earlier.contains name then some ⟨.repeatedParameter name, line⟩
    else repeatedName? names (name :: earlier)

end Parameters

def Form.isComprehension : Form → Bool
  | .generator | .listComprehension | .setComprehension | .dictComprehension => true
  | _ => false

def Form.isKeyword (form : Form) : Bool := form == .argument || form == .unpacked

/-- Forms that hold hints. -/
def Form.isHinted (form : Form) : Bool := form == .parameter || form == .rest

mutual

def visit (s : Scopes) : Tree → Except Fault Scopes
  | .node form line parts => do
    if form.isComprehension then
      let s ← visitFirstIterable s parts
      let inner ← visitClauses true (s.enter (.comprehension form)) parts
      return (← visitElements inner parts).leave
    else
      match form with
      | .name name => s.iterate (nfkc name) line
      | .member => visitFirst s parts
      | .argument => visitAfter s parts
      | .hint => return (← visitAll (s.enter .hint) parts).leave
      | .block => return (← visitAll (s.enter .block) parts).leave
      | .parameter | .rest => visitWhere (·.isHinted) s parts
      | .lambda | .method =>
        let s ← visitWhere (· == .fallback) s parts
        let s ← visitWhere (fun form => form == .hint || form.isHinted) s parts
        match repeatedName? (parameterNames parts) [] with
        | some fault => throw fault
        | none => return (← visitWhere (· == .body) (s.enter .method) parts).leave
      | .yield =>
        s.refuseInHint form line
        let s ← visitAll s parts
        match s.yieldFault? line with
        | some fault => throw fault
        | none => return s
      | .await =>
        s.refuseInHint form line
        visitAll s parts
      | .named =>
        s.refuseInHint form line
        visitNamed s parts
      | .conditional => visitConditional s parts
      | .call =>
        visitWhere Form.isKeyword (← visitWhere (!·.isKeyword) s parts) parts
      | .dict => visitEntries false (← visitEntries true s parts) parts
      | _ => visitAll s parts

def visitAll (s : Scopes) : List Tree → Except Fault Scopes
  | [] => .ok s
  | t :: ts => do visitAll (← visit s t) ts

/-- Visits the parts of some forms only. -/
def visitWhere (counts : Form → Bool) (s : Scopes) : List Tree → Except Fault Scopes
  | [] => .ok s
  | t :: ts => do visitWhere counts (← if counts t.form then visit s t else .ok s) ts

def visitFirst (s : Scopes) : List Tree → Except Fault Scopes
  | [] => .ok s
  | t :: _ => visit s t

def visitAfter (s : Scopes) : List Tree → Except Fault Scopes
  | [] => .ok s
  | _ :: ts => visitAll s ts

/-- The name comes first, but belongs to the scope before its value is looked at. -/
def visitNamed (s : Scopes) : List Tree → Except Fault Scopes
  | [] => .ok s
  | .node form line _ :: ts =>
    match form with
    | .name name => do visitAll (← s.assign (nfkc name) line) ts
    | _ => visitAll s ts

/-- The condition counts before what it decides between. -/
def visitConditional (s : Scopes) : List Tree → Except Fault Scopes
  | [chosen, condition, other] => do visit (← visit (← visit s condition) chosen) other
  | _ => .ok s

/-- The keys of a dictionary, or its values. What is unpacked counts among the values. -/
def visitEntries (keys : Bool) (s : Scopes) : List Tree → Except Fault Scopes
  | [] => .ok s
  | .node _ _ parts :: ts => do visitEntries keys (← visitEntry keys s parts) ts

def visitEntry (keys : Bool) (s : Scopes) : List Tree → Except Fault Scopes
  | [] => .ok s
  | [unpacked] => if keys then .ok s else visit s unpacked
  | key :: value :: _ => if keys then visit s key else visit s value

/-- What a comprehension goes through first is looked at outside of it. -/
def visitFirstIterable (s : Scopes) : List Tree → Except Fault Scopes
  | [] => .ok s
  | .node form _ parts :: ts =>
    if form = .clause then visitSecond s parts else visitFirstIterable s ts

def visitSecond (s : Scopes) : List Tree → Except Fault Scopes
  | _ :: iterable :: _ => s.inIterable (visit · iterable)
  | _ => .ok s

def visitClauses (isFirst : Bool) (s : Scopes) : List Tree → Except Fault Scopes
  | [] => .ok s
  | .node form _ parts :: ts => do
    if form = .clause then visitClauses false (← visitClause isFirst s parts) ts
    else visitClauses isFirst s ts

def visitClause (isFirst : Bool) (s : Scopes) : List Tree → Except Fault Scopes
  | target :: iterable :: conditions => do
    let s ← s.inTarget (visit · target)
    visitAll (← if isFirst then .ok s else s.inIterable (visit · iterable)) conditions
  | _ => .ok s

/-- The elements of a comprehension. Of an entry the value counts first. -/
def visitElements (s : Scopes) : List Tree → Except Fault Scopes
  | [] => .ok s
  | t :: ts => do
    let s ← visitElements s ts
    if t.form = .clause then return s else visit s t

end

/-- The first thing in a text that must not be where it is. -/
def scopeFault? (trees : List Tree) : Option Fault :=
  match visitAll [{ kind := .wholeText }] trees with
  | .error fault => some fault
  | .ok _ => none

end RecordBuilders.Target.Code
