import RecordBuilders.Text.Identifier
import RecordBuilders.Text.Normalization

/-! Names in the generated Python code. -/
namespace RecordBuilders.Target
open Text

/-- Words of the target language that name nothing. -/
def reservedWords : List String :=
  ["False", "None", "True", "and", "as", "assert", "async", "await", "break", "class", "continue",
    "def", "del", "elif", "else", "except", "finally", "for", "from", "global", "if", "import",
    "in", "is", "lambda", "nonlocal", "not", "or", "pass", "raise", "return", "try", "while",
    "with", "yield"]

/-- Module-level names that the generated code looks up. A class of such a name would hide them. -/
def headerNames : List String :=
  ["Optional", "_dataclass", "_MissingFieldError", "list", "staticmethod"]

/-- Within a class, names with two leading underscores are special or private to it. -/
def isGuarded (name : String) : Bool := "__".toList.isPrefixOf name.toList

def isUnusable (name : String) : Bool := reservedWords.contains name || isGuarded name

/-- Identifiers that a class or a member may have for a name. -/
def isUsable (name : String) : Bool := isIdentifier name && !isUnusable name

/-- A class name must not hide what the generated code looks up, either. -/
def isUnusableForClass (name : String) : Bool := isUnusable name || headerNames.contains name

/-- The name that an identifier in code stands for: its normalization form KC. Blanks around it are
no part of it. -/
def canonical (name : String) : String :=
  let isBlank (c : Char) : Bool := c == ' ' || c == '\t' || c == '\x0c'
  let behind := name.toList.dropWhile isBlank
  nfkc (String.ofList (behind.reverse.dropWhile isBlank).reverse)

/-- A guarded name that does not end in two underscores is private: within a class it stands for
one that begins with the name of the class. A class named by underscores alone has no such names. -/
def mangled (className name : String) : String :=
  let owner := className.toList.dropWhile (· == '_')
  if isGuarded name && !isGuarded (String.ofList name.toList.reverse) && !owner.isEmpty then
    "_" ++ String.ofList owner ++ name
  else name

end RecordBuilders.Target
