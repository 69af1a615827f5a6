import RecordBuilders.Text.IdentifierTable

/-! Words of the declaration language are ASCII. Identifiers of the generated code are not: they
follow the Unicode identifier properties, with the underscore as one more starting character. -/
namespace RecordBuilders.Text

def isWordStart (c : Char) : Bool := c.isAlpha || c == '_'

def isWordPart (c : Char) : Bool := c.isAlphanum || c == '_'

def isIdentifierStart (c : Char) : Bool :=
  isWordStart c || identifierStarts.covers c.toNat

def isIdentifierPart (c : Char) : Bool :=
  isWordPart c || identifierStarts.covers c.toNat || identifierExtenders.covers c.toNat

def isIdentifier (s : String) : Bool :=
  match s.toList with
  | [] => false
  | c :: cs => isIdentifierStart c && cs.all isIdentifierPart

theorem isIdentifierStart_of_isWordStart {c : Char} (h : isWordStart c = true) :
    isIdentifierStart c = true := by
  simp [isIdentifierStart, h]

theorem isIdentifierPart_of_isWordPart {c : Char} (h : isWordPart c = true) :
    isIdentifierPart c = true := by
  simp [isIdentifierPart, h]

end RecordBuilders.Text
