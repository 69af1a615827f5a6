import RecordBuilders.Syntax.Parser
import RecordBuilders.Syntax.Token.Lexer
import RecordBuilders.Text.Quoted
import RecordBuilders.Text.Lines

/-! From source text to declarations. A text that is no list of declarations is refused at the
first token or character that no continuation could mend. -/
namespace RecordBuilders.Syntax
open Text

inductive SyntaxError where
  | unexpectedToken (token : Token)
  /-- The text breaks off behind the token at `last`. -/
  | unexpectedEnd (last : Position)
  | strayCharacter (stray : Stray)
  deriving Repr, DecidableEq

namespace SyntaxError

def position : SyntaxError → Position
  | .unexpectedToken token => token.position
  | .unexpectedEnd last => last
  | .strayCharacter stray => stray.position

def unexpectedText (className text : String) (p : Position) : String :=
  "Unexpected token Token('" ++ className ++ "', " ++ quoted text ++ ") at line " ++
    toString p.line ++ ", column " ++ toString p.column ++ "."

/-- Messages have one line, so a stray line break ends its own message. -/
def message : SyntaxError → String
  | .unexpectedToken token =>
    unexpectedText token.lexeme.className token.lexeme.text token.position
  | .unexpectedEnd last => unexpectedText "$END" "" last
  | .strayCharacter ⟨char, p⟩ =>
    firstLine ("No terminal matches '" ++ String.singleton char ++
      "' in the current parser context, at line " ++ toString p.line ++ " col " ++
      toString p.column)

end SyntaxError

/-- What comes to light behind the last token. -/
def Scan.endError (s : Scan) : SyntaxError :=
  match s.stray with
  | some stray => .strayCharacter stray
  | none => .unexpectedEnd ((s.tokens.getLast?.map Token.position).getD {})

/-- The declarations of a scanned text. A token that fits nowhere is reported before a stray
character, which can only come later. -/
def Scan.declarations (s : Scan) : Except SyntaxError (List Declaration) :=
  match Parser.declarations s.tokens with
  | .error (token :: _) => .error (.unexpectedToken token)
  | .error [] => .error s.endError
  | .ok (declarations, _) =>
    match s.stray with
    | some stray => .error (.strayCharacter stray)
    | none => .ok declarations

def parse (source : String) : Except SyntaxError (List Declaration) :=
  (scan source).declarations

end RecordBuilders.Syntax
