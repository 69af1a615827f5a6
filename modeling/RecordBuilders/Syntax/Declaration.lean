import RecordBuilders.Syntax.TypeExpr
import RecordBuilders.Syntax.Attribute

/-! Declared types. Only a `struct` gets a builder; the other kinds are kept so that they can be
refused by name. -/
namespace RecordBuilders.Syntax
open Text

/-- A kind that the parser does not know can still come from a caller. -/
inductive Kind where
  | struct
  | enum
  | union
  | other (word : String)
  deriving Repr, DecidableEq

namespace Kind

def word : Kind → String
  | .struct => "struct"
  | .enum => "enum"
  | .union => "union"
  | .other word => word

def ofWord (word : String) : Kind :=
  if word = "struct" then .struct
  else if word = "enum" then .enum
  else if word = "union" then .union
  else .other word

end Kind

/-- A field of a tuple record has no name. -/
structure Field where
  name : Option String := none
  type : TypeExpr := .absent
  annotations : List Attribute := []
  location : Option Position := none
  deriving Repr, Inhabited

/-- Fields and variants are in the order of the source. -/
structure Declaration where
  name : String
  kind : Kind := .struct
  fields : List Field := []
  attributes : List Attribute := []
  variants : List String := []
  location : Option Position := none
  deriving Repr

end RecordBuilders.Syntax
