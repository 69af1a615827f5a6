import RecordBuilders.Field.Classification
import RecordBuilders.Json.Basic

/-! What the methods of a member do to the value that the builder keeps for it. -/
namespace RecordBuilders

/-- What calling one of a member's methods means. -/
inductive Action where
  | store
  | append
  | replace
  deriving Repr, DecidableEq

/-- The methods of a member with their meanings, in the order of their definition. -/
def Member.actions (m : Member) : List (String × Action) :=
  match m.role with
  | .repeatable _ method =>
    (method, .append) :: if m.hasBulkSetter then [(m.name, .replace)] else []
  | _ => [(m.name, .store)]

theorem Member.map_fst_actions (m : Member) : m.actions.map Prod.fst = m.methods := by
  obtain ⟨name, declared, role, location⟩ := m
  cases role with
  | required => rfl
  | optional => rfl
  | repeatable element method =>
    by_cases h : (method != name) = true <;> simp [actions, methods, hasBulkSetter, h]

/-- Sequences start empty, single values unset. -/
def Member.initialValue (m : Member) : Json :=
  match m.role with
  | .repeatable _ _ => .array []
  | _ => .null

namespace Json

/-- The kind of a value, by its name in the target language. -/
def kindName : Json → String
  | .null => "NoneType"
  | .bool _ => "bool"
  | .integer _ => "int"
  | .decimal _ | .nonFinite _ => "float"
  | .string _ => "str"
  | .array _ => "list"
  | .object _ => "dict"

/-- What iterating over a value yields: the items of an array, the characters of a string, the
names of an object's members. -/
def elements? : Json → Option (List Json)
  | .array items => some items
  | .string text => some (text.toList.map fun c => .string (String.singleton c))
  | .object members => some (members.map fun (name, _) => .string name)
  | _ => none

end Json
end RecordBuilders
