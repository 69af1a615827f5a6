import RecordBuilders.Text.Hex

/-! Rows of numbers, written in hexadecimal: a blank stands between two numbers of a row, a
semicolon between two rows. -/
namespace RecordBuilders.Text

/-- Reads on behind the first digits of a number and the first numbers of a row. -/
def hexRowsFrom (number : Nat) (row : List Nat) : List Char → List (List Nat)
  | [] => [row ++ [number]]
  | c :: cs =>
    if c = ' ' then hexRowsFrom 0 (row ++ [number]) cs
    else if c = ';' then (row ++ [number]) :: hexRowsFrom 0 [] cs
    else hexRowsFrom (number * 16 + (hexValue c).getD 0) row cs

def hexRows (text : String) : List (List Nat) := hexRowsFrom 0 [] text.toList

/-- The rows of a table that is cut into lines, each of whole rows. -/
def hexTable (lines : List String) : List (List Nat) := lines.flatMap hexRows

/-- A row whose first number has the others for its value. -/
def entry? : List Nat → Option (Nat × List Nat)
  | key :: value => some (key, value)
  | [] => none

/-- A row of the two ends of a range and one value for it. -/
def rangeEntry? : List Nat → Option (Nat × Nat × Nat)
  | [low, high, value] => some (low, high, value)
  | _ => none

end RecordBuilders.Text
