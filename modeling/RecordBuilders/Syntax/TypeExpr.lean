/-! Type expressions of the declaration language and their source text. -/
namespace RecordBuilders.Syntax

mutual

/-- A type as it is declared. Fields that were assembled by hand may lack one, at any depth:
that is `absent`, which no source text denotes. -/
inductive TypeExpr where
  | path (segments : List Segment)
  | reference (lifetime : Option String) (mutable : Bool) (referent : TypeExpr)
  | tuple (elements : List TypeExpr)
  | array (element : TypeExpr) (length : String)
  | absent

/-- `applied` carries a list in angle brackets, which may be empty. -/
inductive Segment where
  | plain (name : String)
  | applied (name : String) (arguments : List GenericArg)

inductive GenericArg where
  | type (type : TypeExpr)
  | lifetime (name : String)
  | const (value : String)

end

deriving instance Repr for TypeExpr, Segment, GenericArg
deriving instance Inhabited for TypeExpr, Segment, GenericArg

namespace Segment

def name : Segment → String
  | .plain name => name
  | .applied name _ => name

/-- No brackets count as no arguments. -/
def arguments : Segment → List GenericArg
  | .plain _ => []
  | .applied _ arguments => arguments

end Segment

/-- What stands between the ampersand and the referent. -/
def referenceMarks (lifetime : Option String) (mutable : Bool) : String :=
  let name := lifetime.getD ""
  (if name.isEmpty then "" else name ++ " ") ++ if mutable then "mut " else ""

mutual

/-- The source text of a type, with one blank behind each comma and none elsewhere that it could
do without. A tuple of one element needs its comma. -/
def TypeExpr.text : TypeExpr → String
  | .path segments => "::".intercalate (Segment.texts segments)
  | .reference lifetime mutable referent =>
    "&" ++ referenceMarks lifetime mutable ++ referent.text
  | .tuple [element] => "(" ++ element.text ++ ",)"
  | .tuple elements => "(" ++ ", ".intercalate (TypeExpr.texts elements) ++ ")"
  | .array element length => "[" ++ element.text ++ "; " ++ length ++ "]"
  | .absent => "None"

def TypeExpr.texts : List TypeExpr → List String
  | [] => []
  | type :: types => type.text :: TypeExpr.texts types

def Segment.text : Segment → String
  | .plain name => name
  | .applied name arguments =>
    name ++ "<" ++ ", ".intercalate (GenericArg.texts arguments) ++ ">"

def Segment.texts : List Segment → List String
  | [] => []
  | segment :: segments => segment.text :: Segment.texts segments

def GenericArg.text : GenericArg → String
  | .type type => type.text
  | .lifetime name => name
  | .const value => value

def GenericArg.texts : List GenericArg → List String
  | [] => []
  | argument :: arguments => argument.text :: GenericArg.texts arguments

end

end RecordBuilders.Syntax
