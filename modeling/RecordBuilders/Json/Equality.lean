import RecordBuilders.Json.Binary64

/-! When two values are equal. Numbers are compared by value, whichever way they are written, and
truth values count as one and zero. What is no number equals itself alone. The order of an object's
members does not matter. -/
namespace RecordBuilders

/-- What a number, or a truth value, amounts to. -/
inductive Magnitude where
  | finite (value : Dyadic)
  | infinite (negative : Bool)
  | undefined
  deriving Repr

def Magnitude.same : Magnitude → Magnitude → Bool
  | .finite a, .finite b => a.same b
  | .infinite a, .infinite b => a == b
  | .undefined, .undefined => true
  | _, _ => false

def Decimal.magnitude (d : Decimal) : Magnitude :=
  match Binary64.ofMagnitude d.digits d.exponent with
  | some value => .finite (if d.negative then ⟨-value.mantissa, value.exponent⟩ else value)
  | none => .infinite d.negative

def NonFinite.magnitude : NonFinite → Magnitude
  | .nan => .undefined
  | .infinity => .infinite false
  | .negativeInfinity => .infinite true

namespace Json

def magnitude? : Json → Option Magnitude
  | .bool b => some (.finite (.ofInt b.toInt))
  | .integer n => some (.finite (.ofInt n))
  | .decimal d => some d.magnitude
  | .nonFinite n => some n.magnitude
  | _ => none

mutual

def same : Json → Json → Bool
  | .null, .null => true
  | .string a, .string b => a == b
  | .array as, .array bs => sameItems as bs
  | .object as, .object bs => as.length == bs.length && sameMembers as bs
  | a, b =>
    match a.magnitude?, b.magnitude? with
    | some m, some n => m.same n
    | _, _ => false

def sameItems : List Json → List Json → Bool
  | [], [] => true
  | a :: as, b :: bs => a.same b && sameItems as bs
  | _, _ => false

/-- Every member of the first list has an equal one in the second. -/
def sameMembers : List (String × Json) → List (String × Json) → Bool
  | [], _ => true
  | (name, a) :: as, bs =>
    (match bs.lookup name with
      | some b => a.same b
      | none => false) && sameMembers as bs

end

end Json
end RecordBuilders
