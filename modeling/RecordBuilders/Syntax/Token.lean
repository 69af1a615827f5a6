import RecordBuilders.Text.Position

/-! Tokens of the declaration language. -/
namespace RecordBuilders.Syntax
open Text

/-- Words that never serve as names. -/
inductive Keyword where
  | struct | enum | union | pub | mut
  deriving Repr, DecidableEq

namespace Keyword

def text : Keyword → String
  | .struct => "struct"
  | .enum => "enum"
  | .union => "union"
  | .pub => "pub"
  | .mut => "mut"

def all : List Keyword := [.struct, .enum, .union, .pub, .mut]

def ofText? (s : String) : Option Keyword := all.find? (·.text == s)

theorem ofText?_text (k : Keyword) : ofText? k.text = some k := by
  cases k <;> rfl

theorem text_of_ofText? {s : String} {k : Keyword} (h : ofText? s = some k) : k.text = s := by
  simpa using List.find?_some h

end Keyword

inductive Symbol where
  | semicolon | comma | openBrace | closeBrace | colon | pathSep | openParen | closeParen
  | hash | openBracket | closeBracket | equal | less | greater | ampersand | dot | minus | plus
  | star | slash | bang | question | at | bar
  deriving Repr, DecidableEq

namespace Symbol

def text : Symbol → String
  | .semicolon => ";"
  | .comma => ","
  | .openBrace => "\x7b"
  | .closeBrace => "\x7d"
  | .colon => ":"
  | .pathSep => "::"
  | .openParen => "("
  | .closeParen => ")"
  | .hash => "#"
  | .openBracket => "["
  | .closeBracket => "]"
  | .equal => "="
  | .less => "<"
  | .greater => ">"
  | .ampersand => "&"
  | .dot => "."
  | .minus => "-"
  | .plus => "+"
  | .star => "*"
  | .slash => "/"
  | .bang => "!"
  | .question => "?"
  | .at => "@"
  | .bar => "|"

/-- The name under which messages report an unexpected symbol. -/
def className : Symbol → String
  | .semicolon => "SEMICOLON"
  | .comma => "COMMA"
  | .openBrace => "LBRACE"
  | .closeBrace => "RBRACE"
  | .colon => "COLON"
  | .pathSep => "__ANON_0"
  | .openParen => "LPAR"
  | .closeParen => "RPAR"
  | .hash => "HASH"
  | .openBracket => "LSQB"
  | .closeBracket => "RSQB"
  | .equal => "EQUAL"
  | .less => "LESSTHAN"
  | .greater => "MORETHAN"
  | .ampersand => "AMPERSAND"
  | .dot => "DOT"
  | .minus => "MINUS"
  | .plus => "PLUS"
  | .star => "STAR"
  | .slash => "SLASH"
  | .bang => "BANG"
  | .question => "QMARK"
  | .at => "AT"
  | .bar => "VBAR"

/-- Symbols of one character. Only the path separator is longer. -/
def ofChar? : Char → Option Symbol
  | ';' => some .semicolon
  | ',' => some .comma
  | '\x7b' => some .openBrace
  | '\x7d' => some .closeBrace
  | ':' => some .colon
  | '(' => some .openParen
  | ')' => some .closeParen
  | '#' => some .hash
  | '[' => some .openBracket
  | ']' => some .closeBracket
  | '=' => some .equal
  | '<' => some .less
  | '>' => some .greater
  | '&' => some .ampersand
  | '.' => some .dot
  | '-' => some .minus
  | '+' => some .plus
  | '*' => some .star
  | '/' => some .slash
  | '!' => some .bang
  | '?' => some .question
  | '@' => some .at
  | '|' => some .bar
  | _ => none

end Symbol

/-- A token without its place. A string keeps its quotes and a lifetime its apostrophe. -/
inductive Lexeme where
  | name (text : String)
  | lifetime (text : String)
  | string (text : String)
  | number (text : String)
  | keyword (word : Keyword)
  | symbol (symbol : Symbol)
  deriving Repr, DecidableEq

namespace Lexeme

/-- The source text of the token. -/
def text : Lexeme → String
  | .name s | .lifetime s | .string s | .number s => s
  | .keyword k => k.text
  | .symbol s => s.text

def className : Lexeme → String
  | .name _ => "NAME"
  | .lifetime _ => "LIFETIME"
  | .string _ => "STRING"
  | .number _ => "NUMBER"
  | .keyword .struct => "STRUCT"
  | .keyword .enum => "ENUM"
  | .keyword .union => "UNION"
  | .keyword .pub => "PUB"
  | .keyword .mut => "MUT"
  | .symbol s => s.className

/-- The lexeme of a word: a keyword wherever it stands, else a name. -/
def ofWord (s : String) : Lexeme :=
  match Keyword.ofText? s with
  | some k => .keyword k
  | none => .name s

end Lexeme

/-- A lexeme and the position of its first character. -/
structure Token where
  lexeme : Lexeme
  position : Position
  deriving Repr, DecidableEq

end RecordBuilders.Syntax
