import RecordBuilders.Proofs.Syntax.ConcreteTree
import RecordBuilders.Syntax.Declaration

/-! From concrete trees to declarations. The children of a node are looked up by the rule or the
token that they should be, and any of them may turn out to be missing. -/
namespace RecordBuilders.Syntax.Concrete
open Text

/-- Why nothing can be built from a tree. -/
inductive TreeFault where
  | missingToken (within : Rule) (wanted : TokenClass)
  | missingNode (within : Rule)
  | missingType (within : Rule)
  | unexpectedType (found : Rule)
  /-- The first child of the node is no token. -/
  | missingLeaf (within : Rule)
  /-- A token stands where a node was expected. -/
  | strayToken (token : Token)
  deriving Repr, DecidableEq

/-- A result that is not there is a fault. -/
def found {α : Type} (fault : TreeFault) : Option α → Except TreeFault α
  | some a => .ok a
  | none => .error fault

section Children

/-- A node whose rule passes the test. -/
def isA (test : Rule → Bool) (t : Tree) : Bool := t.rule?.any test

abbrev isNode : Tree → Bool := isA fun _ => true

abbrev isOf (r : Rule) : Tree → Bool := isA (· == r)

/-- The rules of the nodes from which types are built. -/
def typeRules : List Rule := [.pathType, .refType, .tupleType, .arrayType]

abbrev isType : Tree → Bool := isA typeRules.contains

/-- Neither an attribute nor a visibility. -/
abbrev isBody : Tree → Bool := isA fun r => !([.outerAttr, .vis] : List Rule).contains r

def tokenOf? (kind : TokenClass) (t : Tree) : Option Token :=
  t.token?.filter fun token => kind.holds token.lexeme

def firstToken (within : Rule) (kind : TokenClass) (children : List Tree) :
    Except TreeFault Token :=
  found (.missingToken within kind) (children.findSome? (tokenOf? kind))

/-- What is built from the children of one rule. -/
def buildItems {α : Type} (item : Rule) (build : Tree → Except TreeFault α) (t : Tree) :
    Except TreeFault (List α) :=
  (t.children.filter (isOf item)).mapM build

def firstLeaf (within : Rule) : List Tree → Except TreeFault String
  | .leaf token :: _ => .ok token.lexeme.text
  | _ => .error (.missingLeaf within)

end Children

section Types

mutual

def buildType : Tree → Except TreeFault TypeExpr
  | .leaf token => .error (.strayToken token)
  | .node .pathType _ children => TypeExpr.path <$> buildSegments children
  | .node .refType _ children => do
    let lifetime := (children.findSome? (tokenOf? .lifetime)).map (·.lexeme.text)
    return .reference lifetime (children.any (isOf .mutable)) (← buildTypeIn .refType children)
  | .node .tupleType _ children => TypeExpr.tuple <$> buildTypes children
  | .node .arrayType _ children => do
    let length ← firstToken .arrayType .number children
    return .array (← buildTypeIn .arrayType children) length.lexeme.text
  | .node rule _ _ => .error (.unexpectedType rule)

/-- The type of the first child that is a type. -/
def buildTypeIn (within : Rule) : List Tree → Except TreeFault TypeExpr
  | [] => .error (.missingType within)
  | tree :: trees => if isType tree then buildType tree else buildTypeIn within trees

def buildTypes : List Tree → Except TreeFault (List TypeExpr)
  | [] => .ok []
  | tree :: trees =>
    if isNode tree then do return (← buildType tree) :: (← buildTypes trees)
    else buildTypes trees

def buildSegment : Tree → Except TreeFault Segment
  | .leaf token => .error (.strayToken token)
  | .node rule _ children => do
    let name ← firstToken rule .name children
    match ← buildArgumentsIn children with
    | some arguments => return .applied name.lexeme.text arguments
    | none => return .plain name.lexeme.text

def buildSegments : List Tree → Except TreeFault (List Segment)
  | [] => .ok []
  | tree :: trees =>
    if isOf .pathSegment tree then do return (← buildSegment tree) :: (← buildSegments trees)
    else buildSegments trees

/-- The arguments of the first child that is a list of them. -/
def buildArgumentsIn : List Tree → Except TreeFault (Option (List GenericArg))
  | [] => .ok none
  | tree :: trees =>
    if isOf .genericArgs tree then some <$> buildArgumentList tree else buildArgumentsIn trees

def buildArgumentList : Tree → Except TreeFault (List GenericArg)
  | .leaf token => .error (.strayToken token)
  | .node _ _ children => buildArguments children

def buildArguments : List Tree → Except TreeFault (List GenericArg)
  | [] => .ok []
  | tree :: trees =>
    if isNode tree then do return (← buildArgument tree) :: (← buildArguments trees)
    else buildArguments trees

def buildArgument : Tree → Except TreeFault GenericArg
  | .leaf token => .error (.strayToken token)
  | .node .typeArg _ children => GenericArg.type <$> buildTypeIn .typeArg children
  | .node .lifetimeArg _ children => GenericArg.lifetime <$> firstLeaf .lifetimeArg children
  | .node rule _ children => GenericArg.const <$> firstLeaf rule children

end

end Types

section Attributes

mutual

def buildAttrToken : Tree → Except TreeFault AttrToken
  | .leaf token => .error (.strayToken token)
  | .node .attrGroup _ children => AttrToken.group <$> buildAttrTokens children
  | .node .attrIdent _ children => AttrToken.word <$> firstLeaf .attrIdent children
  | .node .attrPunct _ children => AttrToken.punct <$> firstLeaf .attrPunct children
  | .node rule _ children => AttrToken.literal <$> firstLeaf rule children

def buildAttrTokens : List Tree → Except TreeFault (List AttrToken)
  | [] => .ok []
  | tree :: trees =>
    if isNode tree then do return (← buildAttrToken tree) :: (← buildAttrTokens trees)
    else buildAttrTokens trees

end

/-- What one child of an attribute adds to it. -/
def addInput (input : AttrInput) (t : Tree) : Except TreeFault AttrInput :=
  match t.rule? with
  | some .attrArgs => AttrInput.arguments <$> buildAttrTokens t.children
  | some .attrValue => do
    let literal ← found (.missingNode .attrValue) (t.children.find? isNode)
    AttrInput.value <$> buildAttrToken literal
  | _ => .ok input

def buildPath (t : Tree) : List String :=
  (t.children.filterMap Tree.token?).map (·.lexeme.text)

def buildAttribute (t : Tree) : Except TreeFault Attribute := do
  let path ← found (.missingNode .outerAttr) (t.children.find? (isOf .attrPath))
  let input ← (t.children.filter isNode).foldlM addInput .bare
  return { path := buildPath path, input, location := t.location }

end Attributes

section Declarations

def buildNamedField (t : Tree) : Except TreeFault Field := do
  let name ← firstToken .namedField .name t.children
  let type ← buildTypeIn .namedField t.children
  let annotations ← buildItems .outerAttr buildAttribute t
  return { name := some name.lexeme.text, type, annotations, location := some name.position }

def buildTupleField (t : Tree) : Except TreeFault Field := do
  let type ← buildTypeIn .tupleField t.children
  let annotations ← buildItems .outerAttr buildAttribute t
  return { type, annotations, location := t.location }

/-- The fields in the list that stands under `list`, if each is built by `build`. -/
def buildFields (list item : Rule) (build : Tree → Except TreeFault Field) (body : Tree) :
    Except TreeFault (List Field) := do
  let fields ← found (.missingNode list) (body.children.find? (isOf list))
  buildItems item build fields

def buildVariant (t : Tree) : Except TreeFault String :=
  (·.lexeme.text) <$> firstToken .variant .name t.children

def buildBody (attributes : List Attribute) (body : Tree) : Except TreeFault Declaration := do
  let name := (← firstToken .declaration .name body.children).lexeme.text
  let location := body.location
  match body.rule? with
  | some .enumDecl =>
    let variants ← buildItems .variant buildVariant body
    return { name, kind := .enum, attributes, variants, location }
  | some .structNamed =>
    let fields ← buildFields .namedFields .namedField buildNamedField body
    return { name, kind := .struct, fields, attributes, location }
  | some .unionDecl =>
    let fields ← buildFields .namedFields .namedField buildNamedField body
    return { name, kind := .union, fields, attributes, location }
  | some .structTuple =>
    let fields ← buildFields .tupleFields .tupleField buildTupleField body
    return { name, kind := .struct, fields, attributes, location }
  | _ => return { name, kind := .struct, attributes, location }

def buildDeclaration (t : Tree) : Except TreeFault Declaration := do
  let attributes ← buildItems .outerAttr buildAttribute t
  let body ← found (.missingNode .declaration) (t.children.find? isBody)
  buildBody attributes body

/-- The declarations under the root of a tree. -/
def buildDeclarations (t : Tree) : Except TreeFault (List Declaration) :=
  (t.children.filter isNode).mapM buildDeclaration

end Declarations

/-! The functions that go down a tree look at one child after the other. What they do with a list of
children is said here as of the functions above. -/

section Equations
variable (trees : List Tree)

theorem buildTypes_eq : buildTypes trees = (trees.filter isNode).mapM buildType := by
  induction trees with
  | nil => rfl
  | cons tree trees ih =>
    rw [buildTypes, List.filter_cons]
    split
    · rw [List.mapM_cons, ih]
    · exact ih

theorem buildSegments_eq :
    buildSegments trees = (trees.filter (isOf .pathSegment)).mapM buildSegment := by
  induction trees with
  | nil => rfl
  | cons tree trees ih =>
    rw [buildSegments, List.filter_cons]
    split
    · rw [List.mapM_cons, ih]
    · exact ih

theorem buildArguments_eq : buildArguments trees = (trees.filter isNode).mapM buildArgument := by
  induction trees with
  | nil => rfl
  | cons tree trees ih =>
    rw [buildArguments, List.filter_cons]
    split
    · rw [List.mapM_cons, ih]
    · exact ih

theorem buildAttrTokens_eq : buildAttrTokens trees = (trees.filter isNode).mapM buildAttrToken := by
  induction trees with
  | nil => rfl
  | cons tree trees ih =>
    rw [buildAttrTokens, List.filter_cons]
    split
    · rw [List.mapM_cons, ih]
    · exact ih

theorem buildTypeIn_eq (within : Rule) :
    buildTypeIn within trees = found (.missingType within) (trees.find? isType) >>= buildType := by
  induction trees with
  | nil => rfl
  | cons tree trees ih =>
    rw [buildTypeIn, List.find?_cons]
    split
    · next h => rw [h]; rfl
    · next h => rw [Bool.eq_false_iff.mpr h, ih]

theorem buildArgumentsIn_eq : buildArgumentsIn trees =
    (trees.find? (isOf .genericArgs)).mapM buildArgumentList := by
  induction trees with
  | nil => rfl
  | cons tree trees ih =>
    rw [buildArgumentsIn, List.find?_cons]
    split
    · next h => rw [h]; rfl
    · next h => rw [Bool.eq_false_iff.mpr h, ih]

end Equations

end RecordBuilders.Syntax.Concrete
