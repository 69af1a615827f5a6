import RecordBuilders.Syntax.Token

/-! Parsers that decide by the next token alone. -/
namespace RecordBuilders.Syntax
open Text

/-- A failure leaves the tokens from the first one that fits nowhere; none are left if the text
breaks off too early. -/
abbrev Parser := StateT (List Token) (Except (List Token))

namespace Parser

variable {α : Type}

def fail : Parser α := fun tokens => .error tokens

/-- The place of the next token. -/
def here : Parser (Option Position) := fun tokens =>
  .ok (tokens.head?.map Token.position, tokens)

def atLexeme (lexeme : Lexeme) (tokens : List Token) : Bool :=
  tokens.head?.map Token.lexeme == some lexeme

/-- Takes the next token if `rule` has a continuation for it, and goes on as `otherwise` without
taking anything if it has none. -/
def choose (rule : Lexeme → Option (Parser α)) (otherwise : Parser α) : Parser α
  | [] => otherwise []
  | token :: tokens =>
    match rule token.lexeme with
    | some continuation => continuation tokens
    | none => otherwise (token :: tokens)

/-- A choice without an alternative. -/
def branch (rule : Lexeme → Option (Parser α)) : Parser α := choose rule fail

def expect (lexeme : Lexeme) : Parser Unit :=
  branch fun found => if found = lexeme then some (pure ()) else none

def optional (lexeme : Lexeme) : Parser Bool :=
  choose (fun found => if found = lexeme then some (pure true) else none) (pure false)

/-- Every item takes a token, so the bound is never what ends the repetition. -/
def manyUpTo (lead : Lexeme) (item : Parser α) : Nat → Parser (List α)
  | 0 => pure []
  | bound + 1 => fun tokens =>
    if atLexeme lead tokens then
      (do return (← item) :: (← manyUpTo lead item bound)) tokens
    else .ok ([], tokens)

/-- Items that begin with `lead`, as long as there are any. -/
def many (lead : Lexeme) (item : Parser α) : Parser (List α) := fun tokens =>
  manyUpTo lead item tokens.length tokens

def comma : Lexeme := .symbol .comma

/-- At least one item; the comma behind the last one is optional. -/
def commaItemsUpTo (close : Lexeme) (item : Parser α) : Nat → Parser (List α)
  | 0 => fail
  | bound + 1 => do
    let first ← item
    if ← optional comma then
      if ← optional close then return [first]
      else return first :: (← commaItemsUpTo close item bound)
    else
      expect close
      return [first]

/-- Items set apart by commas, up to and including `close`. -/
def commaList (close : Lexeme) (item : Parser α) : Parser (List α) := do
  if ← optional close then return []
  else fun tokens => commaItemsUpTo close item tokens.length tokens

def name : Parser String :=
  branch fun
    | .name text => some (pure text)
    | _ => none

def number : Parser String :=
  branch fun
    | .number text => some (pure text)
    | _ => none

end Parser
end RecordBuilders.Syntax
