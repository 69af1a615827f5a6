import RecordBuilders.Field.ElementMethod
import RecordBuilders.Field.Wrapper
import RecordBuilders.Syntax.Declaration

/-! Each field of a record becomes a member of its builder in one of three roles. -/
namespace RecordBuilders
open Syntax Text

/-- How the builder fills a field: one value that has to be set, one value that may be left out,
or a sequence that `method` extends by one element. -/
inductive Role where
  | required
  | optional (inner : TypeExpr)
  | repeatable (element : TypeExpr) (method : String)
  deriving Repr

/-- A classified field. -/
structure Member where
  name : String
  declared : TypeExpr
  role : Role
  location : Option Position := none
  deriving Repr

namespace Member

/-- The type of the values that the builder stores: without the wrapper, if there is one. -/
def valueType (m : Member) : TypeExpr :=
  match m.role with
  | .required => m.declared
  | .optional inner => inner
  | .repeatable element _ => element

def isRequired (m : Member) : Bool :=
  match m.role with
  | .required => true
  | _ => false

/-- A method named like the field takes the whole sequence, unless it is the element method. -/
def hasBulkSetter (m : Member) : Bool :=
  match m.role with
  | .repeatable _ method => method != m.name
  | _ => false

/-- The methods that the builder gets for the field, in the order of their definition. -/
def methods (m : Member) : List String :=
  match m.role with
  | .repeatable _ method => if m.hasBulkSetter then [method, m.name] else [method]
  | _ => [m.name]

/-- Where the builder keeps the value. -/
def slot (m : Member) : String := "_" ++ m.name

end Member

inductive FieldFault where
  | unnamed
  | mark (source : Attribute) (fault : MarkFault)
  | notASequence
  deriving Repr

/-- An empty name counts as none. -/
def Syntax.Field.usableName? (f : Field) : Option String := f.name.filter (!·.isEmpty)

namespace Config

/-- An annotated field has to be a sequence; any other field is optional if its type says so. -/
def classify (c : Config) (f : Field) : Except FieldFault Member :=
  match f.usableName? with
  | none => .error .unnamed
  | some name =>
    match f.annotations with
    | a :: _ =>
      match c.elementMethod a with
      | .error fault => .error (.mark a fault)
      | .ok method =>
        match f.type.unwrap? c.sequenceWrapper with
        | some element => .ok ⟨name, f.type, .repeatable element method, f.location⟩
        | none => .error .notASequence
    | [] =>
      match f.type.unwrap? c.optionalWrapper with
      | some inner => .ok ⟨name, f.type, .optional inner, f.location⟩
      | none => .ok ⟨name, f.type, .required, f.location⟩

end Config

def unnamedFieldIssue (location : Option Position) : Issue where
  category := .structural
  message := "expected named field"
  origin := .ofPosition? location

def FieldFault.issue (c : Config) (f : Field) : FieldFault → Issue
  | .unnamed => unnamedFieldIssue f.location
  | .mark a fault => fault.issue c a f.name
  | .notASequence => {
      category := .shape
      message := "expected sequence wrapper for repeated field " ++ f.name.getD ""
      origin := .ofPosition? f.location
      field := f.name
      notes := ["declared type is " ++ f.type.text ++ "; expected " ++ c.sequenceWrapper ++ "<T>"] }

end RecordBuilders
