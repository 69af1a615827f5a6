/-! Sets of code points, written as the closed ranges that make them up. -/
namespace RecordBuilders.Text

/-- Closed ranges of code points in ascending order. -/
abbrev Ranges := List (Nat × Nat)

/-- Ascending order lets the search stop at the first range that does not end below `n`. -/
def Ranges.covers : Ranges → Nat → Bool
  | [], _ => false
  | (low, high) :: rest, n => if n ≤ high then decide (low ≤ n) else Ranges.covers rest n

end RecordBuilders.Text
