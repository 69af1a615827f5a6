import RecordBuilders.Target.Code.Fault
import RecordBuilders.Target.Names

/-! Tokens of the target language. -/
namespace RecordBuilders.Target.Code

/-- Layout counts as tokens: the end of a statement's line, and where the depth of indentation
changes. The last token of a text says how it ends; where reading broke off, it tells the innermost
open bracket and its line. -/
inductive TokenKind where
  | word
  | number
  | text
  | symbol
  | lineEnd
  | indent
  | dedent
  | finish
  | broken (cause : Cause) (bracket : Option (Char × Nat))
  deriving Repr, DecidableEq

/-- `depth` counts the brackets that are open behind the token. -/
structure Token where
  kind : TokenKind
  text : String
  line : Nat
  depth : Nat
  deriving Repr, DecidableEq

/-- The names that are reserved in some places only. -/
def softKeywords : List String := ["_", "case", "match"]

namespace Token

/-- A word or symbol of the given text. -/
def is (t : Token) (text : String) : Bool :=
  (t.kind == .word || t.kind == .symbol) && t.text == text

/-- Words that are not reserved. -/
def isName (t : Token) : Bool := t.kind == .word && !reservedWords.contains t.text

/-- Soft keywords, and whatever one of them begins with. -/
def isSoftKeyword (t : Token) : Bool :=
  t.kind == .word && softKeywords.any fun word => t.text.toList.isPrefixOf word.toList

def isLayout (t : Token) : Bool := t.kind == .indent || t.kind == .dedent

/-- The fault at which reading the text broke off. -/
def fault? (t : Token) : Option Fault :=
  match t.kind with
  | .broken cause _ => some ⟨cause, t.line⟩
  | _ => none

end Token

/-- Symbols of more than one character. -/
def longSymbols : List String :=
  ["**=", "//=", "<<=", ">>=", "...", "!=", "%=", "&=", "**", "*=", "+=", "-=", "->", "//", "/=",
    ":=", "<<", "<=", "<>", "==", ">=", ">>", "@=", "^=", "|="]

def openingBrackets : List Char := ['(', '[', '\x7b']

/-- The opening bracket for a closing one. -/
def opening? (closing : Char) : Option Char :=
  if closing = ')' then some '('
  else if closing = ']' then some '['
  else if closing = '\x7d' then some '\x7b'
  else none

/-- Brackets may not be nested any deeper. -/
def maxDepth : Nat := 200

end RecordBuilders.Target.Code
