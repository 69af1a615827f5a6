import RecordBuilders.Syntax.Declaration
import RecordBuilders.Syntax.Parser.Basic

/-! The grammar of declarations. A declaration is placed at its keyword, an attribute at its hash
sign, a named field at its name, and a field of a tuple record at its first token. -/
namespace RecordBuilders.Syntax.Parser
open Text

section Types
variable (type : Parser TypeExpr)

def genericArg : Parser GenericArg :=
  choose (fun
    | .lifetime name => some (pure (.lifetime name))
    | .number value => some (pure (.const value))
    | _ => none)
    (GenericArg.type <$> type)

/-- What follows the name of a segment. -/
def segment (name : String) : Parser Segment :=
  choose (fun
    | .symbol .less => some (Segment.applied name <$> commaList (.symbol .greater) (genericArg type))
    | _ => none)
    (pure (.plain name))

def path (first : String) : Parser TypeExpr := do
  let head ← segment type first
  let tail ← many (.symbol .pathSep) do
    expect (.symbol .pathSep)
    segment type (← name)
  return .path (head :: tail)

def reference : Parser TypeExpr := do
  let lifetime ← choose (fun
    | .lifetime name => some (pure (some name))
    | _ => none)
    (pure none)
  let mutable ← optional (.keyword .mut)
  return .reference lifetime mutable (← type)

def array : Parser TypeExpr := do
  let element ← type
  expect (.symbol .semicolon)
  let length ← number
  expect (.symbol .closeBracket)
  return .array element length

end Types

/-- Types of bounded depth. -/
def typeUpTo : Nat → Parser TypeExpr
  | 0 => fail
  | depth + 1 =>
    branch fun
      | .name first => some (path (typeUpTo depth) first)
      | .symbol .ampersand => some (reference (typeUpTo depth))
      | .symbol .openParen =>
        some (TypeExpr.tuple <$> commaList (.symbol .closeParen) (typeUpTo depth))
      | .symbol .openBracket => some (array (typeUpTo depth))
      | _ => none

/-- Each level takes a token, so no type of the text is deeper than it has tokens. -/
def type : Parser TypeExpr := fun tokens => typeUpTo tokens.length tokens

def attrLiteral? : Lexeme → Option AttrToken
  | .string text | .number text => some (.literal text)
  | _ => none

/-- Tokens that mean themselves. Braces, lifetimes and keywords have no place in an argument list;
parentheses form groups. -/
def attrToken? : Lexeme → Option AttrToken
  | .name text => some (.word text)
  | .symbol .openBrace | .symbol .closeBrace | .symbol .openParen | .symbol .closeParen => none
  | .symbol symbol => some (.punct symbol.text)
  | lexeme => attrLiteral? lexeme

/-- Arguments up to and including the parenthesis that closes them. -/
def argumentsUpTo : Nat → Parser (List AttrToken)
  | 0 => fail
  | bound + 1 =>
    branch fun
      | .symbol .closeParen => some (pure [])
      | .symbol .openParen => some do
        let group ← argumentsUpTo bound
        return .group group :: (← argumentsUpTo bound)
      | lexeme => (attrToken? lexeme).map fun token => do
        return token :: (← argumentsUpTo bound)

def arguments : Parser (List AttrToken) := fun tokens => argumentsUpTo tokens.length tokens

/-- What stands between the path and the closing bracket, and that bracket. -/
def attrInput : Parser AttrInput :=
  branch fun
    | .symbol .closeBracket => some (pure .bare)
    | .symbol .openParen => some do
      let tokens ← arguments
      expect (.symbol .closeBracket)
      return .arguments tokens
    | .symbol .equal => some do
      let literal ← branch fun lexeme => (attrLiteral? lexeme).map pure
      expect (.symbol .closeBracket)
      return .value literal
    | _ => none

def outerAttribute : Parser Attribute := do
  let location ← here
  expect (.symbol .hash)
  expect (.symbol .openBracket)
  let first ← name
  let rest ← many (.symbol .pathSep) do
    expect (.symbol .pathSep)
    name
  let input ← attrInput
  return { path := first :: rest, input, location }

def attributes : Parser (List Attribute) := many (.symbol .hash) outerAttribute

def namedField : Parser Field := do
  let annotations ← attributes
  let _ ← optional (.keyword .pub)
  let location ← here
  let name ← name
  expect (.symbol .colon)
  let type ← type
  return { name := some name, type, annotations, location }

def tupleField : Parser Field := do
  let location ← here
  let annotations ← attributes
  let _ ← optional (.keyword .pub)
  let type ← type
  return { type, annotations, location }

def namedFields : Parser (List Field) := commaList (.symbol .closeBrace) namedField

def tupleFields : Parser (List Field) := commaList (.symbol .closeParen) tupleField

/-- The attributes and fields of a variant are checked and dropped. -/
def variant : Parser String := do
  let _ ← attributes
  let name ← name
  let _ ← choose (fun
    | .symbol .openBrace => some namedFields
    | .symbol .openParen => some tupleFields
    | _ => none)
    (pure [])
  return name

def structFields : Parser (List Field) :=
  branch fun
    | .symbol .openBrace => some namedFields
    | .symbol .openParen => some do
      let fields ← tupleFields
      expect (.symbol .semicolon)
      return fields
    | .symbol .semicolon => some (pure [])
    | _ => none

def declaration : Parser Declaration := do
  let attributes ← attributes
  let _ ← optional (.keyword .pub)
  let location ← here
  branch fun
    | .keyword .struct => some do
      let name ← name
      let fields ← structFields
      return { name, kind := .struct, fields, attributes, location }
    | .keyword .union => some do
      let name ← name
      expect (.symbol .openBrace)
      let fields ← namedFields
      return { name, kind := .union, fields, attributes, location }
    | .keyword .enum => some do
      let name ← name
      expect (.symbol .openBrace)
      let variants ← commaList (.symbol .closeBrace) variant
      return { name, kind := .enum, attributes, variants, location }
    | _ => none

/-- Every declaration takes a token, so the bound is never reached. -/
def declarationsUpTo : Nat → Parser (List Declaration)
  | 0 => pure []
  | bound + 1 => fun tokens =>
    if tokens.isEmpty then .ok ([], [])
    else (do return (← declaration) :: (← declarationsUpTo bound)) tokens

/-- Declarations up to the last token. -/
def declarations : Parser (List Declaration) := fun tokens =>
  declarationsUpTo tokens.length tokens

end RecordBuilders.Syntax.Parser
