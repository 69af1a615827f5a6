import RecordBuilders.Diagnostic.Basic

/-! Problems that the generator itself finds. The category of an issue settles the code and the
phase under which it is reported. -/
namespace RecordBuilders

inductive Category where
  | general
  | structural
  | attr
  | shape
  | naming
  deriving Repr, DecidableEq

namespace Category

def code : Category → String
  | .general => "E-DERIVE"
  | .structural => "E-STRUCT"
  | .attr => "E-ATTR"
  | .shape => "E-SHAPE"
  | .naming => "E-NAME"

/-- Structure is checked before the fields are classified, all else while they are. -/
def phase : Category → String
  | .structural => "extract"
  | _ => "classify"

end Category

/-- A problem that no file has been named for yet. -/
structure Issue where
  category : Category
  message : String
  origin : Origin := .unknown
  field : Option String := none
  notes : List String := []
  deriving Repr, DecidableEq

def Issue.diagnostic (file : Option String) (i : Issue) : Diagnostic where
  message := i.message
  code := some i.category.code
  phase := some i.category.phase
  span := .ofOrigin file i.origin
  field := i.field
  notes := i.notes

theorem Issue.isError_diagnostic (file : Option String) (i : Issue) :
    (i.diagnostic file).isError = true := rfl

end RecordBuilders
