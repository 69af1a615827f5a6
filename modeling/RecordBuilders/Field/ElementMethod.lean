import RecordBuilders.Config.Basic
import RecordBuilders.Diagnostic.Issue
import RecordBuilders.Syntax.Attribute

/-! The attribute that makes a field repeatable: `builder(each = "name")`, where `name` is the
method that appends one element. -/
namespace RecordBuilders
open Syntax Text

inductive MarkFault where
  | otherAttribute
  | malformedArguments
  | invalidName (name : String)
  deriving Repr, DecidableEq

def isQuote (c : Char) : Bool := c == '"'

/-- All quotes at both ends are dropped, not just one. -/
def stripQuotes (text : String) : String :=
  String.ofList (((text.toList.dropWhile isQuote).reverse.dropWhile isQuote).reverse)

/-- The element method that an attribute names. -/
def Config.elementMethod (c : Config) (a : Attribute) : Except MarkFault String :=
  if a.path = [c.attributeName] then
    match a.input with
    | .arguments [.word key, .punct sign, .literal text] =>
      if key = c.eachKey ∧ sign = "=" ∧ text.toList.head?.any isQuote then
        let name := stripQuotes text
        if isIdentifier name then .ok name else .error (.invalidName name)
      else .error .malformedArguments
    | .arguments _ => .error .malformedArguments
    | _ => .error .otherAttribute
  else .error .otherAttribute

/-- What an attribute with arguments should have looked like. -/
def Config.markShape (c : Config) : String := c.attributeName ++ "(" ++ c.eachKey ++ " = \"...\")"

def MarkFault.message (c : Config) : MarkFault → String
  | .otherAttribute => "expected #[" ++ c.attributeName ++ "(...)] attribute"
  | .malformedArguments => "expected " ++ c.markShape
  | .invalidName name => "invalid method name \"" ++ name ++ "\" in " ++ c.markShape

/-- An invalid name is quoted in the message; the other faults show the attribute in a note. -/
def MarkFault.notes (a : Attribute) : MarkFault → List String
  | .invalidName _ => []
  | _ => ["found " ++ a.text]

def MarkFault.issue (c : Config) (a : Attribute) (field : Option String) (f : MarkFault) : Issue where
  category := .attr
  message := f.message c
  origin := .ofPosition? a.location
  field := field
  notes := f.notes a

/-- The element method of a field with these annotations. Only the first one is read. -/
def Config.elementMethod? (c : Config) (field : Option String) :
    List Attribute → Except Issue (Option String)
  | [] => .ok none
  | a :: _ =>
    match c.elementMethod a with
    | .ok name => .ok (some name)
    | .error fault => .error (fault.issue c a field)

end RecordBuilders
