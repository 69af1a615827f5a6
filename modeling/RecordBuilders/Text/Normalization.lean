import RecordBuilders.Text.CombiningTable
import RecordBuilders.Text.CompositionTable
import RecordBuilders.Text.DecompositionTable

/-! Normalization form KC of Unicode, for the characters that identifiers may hold: every character
gives way to its compatibility decomposition, marks are put in order, and what can be composed is. -/
namespace RecordBuilders.Text

/-- The value of the first range that holds the code point, with the offset in that range. -/
def rangeValue? (ranges : List (Nat × Nat × Nat)) (n : Nat) : Option (Nat × Nat) :=
  (ranges.find? fun (low, high, _) => decide (low ≤ n) && decide (n ≤ high)).map
    fun (low, _, value) => (value, n - low)

section Hangul

/-! A Hangul syllable consists of a leading consonant, a vowel and perhaps a trailing consonant,
and its code point is computed from theirs. -/

def firstSyllable : Nat := 0xAC00
def firstLeading : Nat := 0x1100
def firstVowel : Nat := 0x1161

/-- One below the first trailing consonant, since a syllable may have none. -/
def noTrailing : Nat := 0x11A7

def leadingCount : Nat := 19
def vowelCount : Nat := 21
def trailingCount : Nat := 28

def isSyllable (n : Nat) : Bool :=
  firstSyllable ≤ n && n < firstSyllable + leadingCount * vowelCount * trailingCount

def syllableParts (n : Nat) : List Nat :=
  let index := n - firstSyllable
  let pair := index / trailingCount
  let trailing := index % trailingCount
  [firstLeading + pair / vowelCount, firstVowel + pair % vowelCount] ++
    if trailing = 0 then [] else [noTrailing + trailing]

/-- A leading consonant takes a vowel, and a syllable without trailing consonant takes one. -/
def composeSyllable? (a b : Nat) : Option Nat :=
  if firstLeading ≤ a ∧ a < firstLeading + leadingCount ∧
      firstVowel ≤ b ∧ b < firstVowel + vowelCount then
    some (firstSyllable +
      ((a - firstLeading) * vowelCount + (b - firstVowel)) * trailingCount)
  else if isSyllable a ∧ (a - firstSyllable) % trailingCount = 0 ∧
      noTrailing < b ∧ b < noTrailing + trailingCount then
    some (a + (b - noTrailing))
  else none

end Hangul

/-- The complete compatibility decomposition of a character. -/
def compatibleParts (c : Char) : List Char :=
  let n := c.toNat
  if n < 0x80 then [c]
  else if isSyllable n then (syllableParts n).map Char.ofNat
  else
    match decompositions.lookup n, rangeValue? decompositionRanges n with
    | some parts, _ => parts.map Char.ofNat
    | none, some (first, offset) => [Char.ofNat (first + offset)]
    | none, none => [c]

/-- Characters of class 0 start something new; all others are marks on what stands before. -/
def combiningClass (c : Char) : Nat :=
  ((rangeValue? combiningRanges c.toNat).map Prod.fst).getD 0

/-- Puts a mark behind the marks of lower classes, but never behind a character of class 0. -/
def insertMark (c : Char) : List Char → List Char
  | [] => [c]
  | d :: ds =>
    if 0 < combiningClass d ∧ combiningClass d < combiningClass c then d :: insertMark c ds
    else c :: d :: ds

/-- Marks of the same class keep their order. -/
def orderMarks (cs : List Char) : List Char := cs.foldr insertMark []

def composePair? (a b : Char) : Option Char :=
  match compositions.find? fun (first, second, _) => first == a.toNat && second == b.toNat with
  | some (_, _, composite) => some (Char.ofNat composite)
  | none => (composeSyllable? a.toNat b.toNat).map Char.ofNat

/-- A mark reaches the starter unless one of its own or a higher class stands between them. The
last of the marks in between has the highest class. -/
def isBlocked (between : List Char) (c : Char) : Bool :=
  match between.getLast? with
  | some mark => combiningClass c ≤ combiningClass mark
  | none => false

/-- Composes a starter, behind which stand marks that it could not take, with what follows. -/
def composeFrom (starter : Char) (between : List Char) : List Char → List Char
  | [] => starter :: between
  | c :: cs =>
    match if isBlocked between c then none else composePair? starter c with
    | some composite => composeFrom composite between cs
    | none =>
      if combiningClass c = 0 then starter :: between ++ composeFrom c [] cs
      else composeFrom starter (between ++ [c]) cs

def compose : List Char → List Char
  | [] => []
  | c :: cs => composeFrom c [] cs

/-- Normalization form KC. ASCII text is in that form. -/
def nfkc (s : String) : String :=
  if s.toList.all fun c => decide (c.toNat < 0x80) then s
  else String.ofList (compose (orderMarks (s.toList.flatMap compatibleParts)))

end RecordBuilders.Text
