/-! JSON values. The members of an object keep the order in which their names first appeared. -/
namespace RecordBuilders

/-- A number that is written with a fraction or an exponent: `digits * 10 ^ exponent`, negated if
so marked. -/
structure Decimal where
  negative : Bool
  digits : Nat
  exponent : Int
  deriving Repr, DecidableEq

inductive NonFinite where
  | nan
  | infinity
  | negativeInfinity
  deriving Repr, DecidableEq

inductive Json where
  | null
  | bool (value : Bool)
  | integer (value : Int)
  | decimal (value : Decimal)
  | nonFinite (value : NonFinite)
  | string (value : String)
  | array (items : List Json)
  | object (members : List (String × Json))
  deriving Repr, Inhabited

namespace Json

/-- Gives a member a value. A name that is already there keeps its place. -/
def setMember (name : String) (value : Json) : List (String × Json) → List (String × Json)
  | [] => [(name, value)]
  | (key, old) :: rest =>
    if key = name then (key, value) :: rest else (key, old) :: setMember name value rest

theorem lookup_setMember (name key : String) (value : Json) (members : List (String × Json)) :
    (setMember name value members).lookup key =
      if key = name then some value else members.lookup key := by
  induction members with
  | nil =>
    by_cases h : key = name
    · simp [setMember, h]
    · have hb : (key == name) = false := by simpa using h
      simp [setMember, List.lookup_cons, h, hb]
  | cons member members ih =>
    obtain ⟨k, v⟩ := member
    by_cases hk : k = name
    · subst hk
      by_cases h : key = k
      · simp [setMember, h]
      · have hb : (key == k) = false := by simpa using h
        simp [setMember, List.lookup_cons, h, hb]
    · by_cases h : key = k
      · subst h
        simp [setMember, hk]
      · have hb : (key == k) = false := by simpa using h
        simp [setMember, List.lookup_cons, hk, hb, ih]

/-- The members that a list of pairs leaves: of equal names the last value counts. -/
def membersOf (pairs : List (String × Json)) : List (String × Json) :=
  pairs.foldl (fun members (name, value) => setMember name value members) []

def member? (name : String) : Json → Option Json
  | .object members => members.lookup name
  | _ => none

/-- An optional text, `null` standing for its absence. -/
def ofText? : Option String → Json
  | some text => .string text
  | none => .null

def ofInteger? : Option Int → Json
  | some n => .integer n
  | none => .null

end Json
end RecordBuilders
