import RecordBuilders.Text.Position

/-! Attributes of declarations and fields, and their source text. -/
namespace RecordBuilders.Syntax
open Text

/-- An attribute argument. A literal keeps its quotes; a group is what stands in parentheses. Tokens
of any other kind come from callers only, and mean nothing. -/
inductive AttrToken where
  | word (text : String)
  | punct (text : String)
  | literal (text : String)
  | group (tokens : List AttrToken)
  | other (text : String)
  deriving Repr, Inhabited

mutual

/-- The tokens of a group are set apart by single blanks. -/
def AttrToken.text : AttrToken → String
  | .word text | .punct text | .literal text | .other text => text
  | .group tokens => "(" ++ " ".intercalate (AttrToken.texts tokens) ++ ")"

def AttrToken.texts : List AttrToken → List String
  | [] => []
  | token :: tokens => token.text :: AttrToken.texts tokens

end

/-- What follows the path: nothing, a list in parentheses, or a value behind an equals sign. -/
inductive AttrInput where
  | bare
  | arguments (tokens : List AttrToken)
  | value (literal : AttrToken)
  deriving Repr, Inhabited

def AttrInput.text : AttrInput → String
  | .bare => ""
  | .arguments tokens => "(" ++ " ".intercalate (AttrToken.texts tokens) ++ ")"
  | .value literal => " = " ++ literal.text

structure Attribute where
  path : List String
  input : AttrInput := .bare
  location : Option Position := none
  deriving Repr, Inhabited

def Attribute.text (a : Attribute) : String :=
  "#[" ++ "::".intercalate a.path ++ a.input.text ++ "]"

end RecordBuilders.Syntax
