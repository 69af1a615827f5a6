import RecordBuilders.Target.Code.Literal
import RecordBuilders.Target.Code.Token
import RecordBuilders.Text.Lines

/-! Cutting code into tokens. Indentation counts at the start of each statement; within brackets,
line ends are blanks. -/
namespace RecordBuilders.Target.Code
open Text

namespace Lexer

/-- How far a statement is indented. The second count takes a tab for a single blank: where the two
disagree about which line is indented further, tabs and blanks are mixed. -/
structure Indentation where
  width : Nat := 0
  blanks : Nat := 0
  deriving Repr, DecidableEq

/-- What has to be known about the text before the place of reading. `begun` says that the line
already has a token; the innermost indentation and bracket come first. -/
structure State where
  line : Nat := 1
  begun : Bool := false
  indents : List Indentation := []
  brackets : List (Char × Nat) := []
  halted : Bool := false

/-- Tokens with the state and the text behind them. -/
structure Piece where
  tokens : List Token := []
  state : State
  rest : List Char

namespace State

def token (s : State) (kind : TokenKind) (text : String) : Token :=
  ⟨kind, text, s.line, s.brackets.length⟩

def emit (s : State) (kind : TokenKind) (text : String) (rest : List Char) : Piece :=
  ⟨[s.token kind text], { s with begun := true }, rest⟩

/-- Reading ends at a fault, with a token that fits nowhere. -/
def halt (s : State) (cause : Cause) : Piece :=
  ⟨[s.token (.broken cause s.brackets.head?) ""], { s with halted := true }, []⟩

end State

def isBlank (c : Char) : Bool := c == ' ' || c == '\t' || c == '\x0c'

/-- A tab goes on to the next multiple of eight. A form feed starts again. -/
def Indentation.next (i : Indentation) (c : Char) : Indentation :=
  if c = '\t' then ⟨(i.width / 8 + 1) * 8, i.blanks + 1⟩
  else if c = ' ' then ⟨i.width + 1, i.blanks + 1⟩
  else {}

/-- The blanks before a statement, with the lines over which they go on behind backslashes. The first
of these lines that is indented counts. -/
structure Margin where
  indentation : Indentation
  line : Nat
  rest : List Char

def margin (line : Nat) (kept current : Indentation) : List Char → Except Cause Margin
  | '\\' :: '\n' :: [] => .error .endOfText
  | '\\' :: '\n' :: cs =>
    margin (line + 1) (if kept.width = 0 then ⟨current.width, current.width⟩ else kept) current cs
  | '\\' :: _ => .error .continuation
  | c :: cs =>
    if isBlank c then margin line kept (current.next c) cs
    else .ok ⟨if kept.width = 0 then current else kept, line, c :: cs⟩
  | [] => .ok ⟨if kept.width = 0 then current else kept, line, []⟩

/-- Opens or closes blocks before a statement. -/
def indent (s : State) (i : Indentation) (rest : List Char) : Piece :=
  let current := s.indents.head?.getD {}
  if i.width = current.width then
    if i.blanks = current.blanks then ⟨[], s, rest⟩ else s.halt .mixedIndentation
  else if current.width < i.width then
    if i.blanks ≤ current.blanks then s.halt .mixedIndentation
    else ⟨[s.token .indent ""], { s with indents := i :: s.indents }, rest⟩
  else
    let outer := s.indents.dropWhile (i.width < ·.width)
    let closed := List.replicate (s.indents.length - outer.length) (s.token .dedent "")
    let reached := outer.head?.getD {}
    if reached.width ≠ i.width then s.halt .unindentedBetween
    else if reached.blanks ≠ i.blanks then s.halt .mixedIndentation
    else ⟨closed, { s with indents := outer }, rest⟩

/-- Reads the blanks at the start of a line. Lines without a statement have no indentation. -/
def startLine (s : State) (cs : List Char) : Piece :=
  match margin s.line {} {} cs with
  | .error cause => s.halt cause
  | .ok ⟨indentation, line, rest⟩ =>
    let s := { s with line }
    let isStatement := match rest with
      | [] => false
      | c :: _ => c != '\n' && c != '#'
    if !s.brackets.isEmpty || !isStatement then ⟨[], s, rest⟩ else indent s indentation rest

/-- Behind the last line, no other begins. -/
def endLine (s : State) (cs : List Char) : Piece :=
  let ends := if s.begun && s.brackets.isEmpty then [s.token .lineEnd ""] else []
  let begun := s.begun && !s.brackets.isEmpty
  let line := if cs.isEmpty then s.line else s.line + 1
  let next := startLine { s with line, begun } cs
  { next with tokens := ends ++ next.tokens }

/-- What the end of the text adds. -/
def ending (s : State) : List Token :=
  if s.halted then []
  else
    match s.brackets with
    | (opening, line) :: _ =>
      [⟨.broken (.unclosed opening) (some (opening, line)), "", line, s.brackets.length⟩]
    | [] =>
      (if s.begun then [s.token .lineEnd ""] else []) ++
        s.indents.map (fun _ => s.token .dedent "") ++ [s.token .finish ""]

/-- The first character, if any, that keeps a word from being an identifier. -/
def strayCharacter? : List Char → Option Char
  | [] => none
  | c :: cs => if isIdentifierStart c then cs.find? (!isIdentifierPart ·) else some c

def word (s : State) (cs : List Char) : Piece :=
  let taken := cs.takeWhile isWordCharacter
  match strayCharacter? taken with
  | some c => s.halt (.character c)
  | none => s.emit .word (String.ofList taken) (cs.dropWhile isWordCharacter)

/-- What stands before `rest` in `cs`. -/
def taken (cs rest : List Char) : String := String.ofList (cs.take (cs.length - rest.length))

/-- A quoted text begins with its marks, behind which `quote` stands. -/
def quotedText (s : State) (cs : List Char) (quote : Char) (behind : List Char) : Piece :=
  match textRest quote s.line behind with
  | .ok (rest, line) => ⟨[s.token .text (taken cs rest)], { s with begun := true, line }, rest⟩
  | .error cause => s.halt cause

def number (s : State) (cs : List Char) (rest : Except Cause (List Char)) : Piece :=
  match rest with
  | .ok rest => s.emit .number (taken cs rest) rest
  | .error cause => s.halt cause

def openBracket (s : State) (c : Char) (cs : List Char) : Piece :=
  if maxDepth ≤ s.brackets.length then s.halt .tooManyBrackets
  else State.emit { s with brackets := (c, s.line) :: s.brackets } .symbol (String.singleton c) cs

def closeBracket (s : State) (c opening : Char) (cs : List Char) : Piece :=
  match s.brackets with
  | [] => s.halt (.unmatched c)
  | (innermost, line) :: outer =>
    if innermost = opening then
      State.emit { s with brackets := outer } .symbol (String.singleton c) cs
    else s.halt (.mismatched c innermost (if line = s.line then none else some line))

def symbol (s : State) (c : Char) (cs : List Char) : Piece :=
  match longSymbols.find? (·.toList.isPrefixOf (c :: cs)) with
  | some text => s.emit .symbol text (cs.drop (text.length - 1))
  | none =>
    if isPrintable c then s.emit .symbol (String.singleton c) cs else s.halt (.character c)

/-- A backslash takes the end of the line away, and nothing else. -/
def continuation (s : State) (cs : List Char) : Piece :=
  match cs with
  | ['\n'] => s.halt .endOfText
  | '\n' :: rest => ⟨[], { s with line := s.line + 1 }, rest⟩
  | _ => s.halt .continuation

/-- The piece that begins with `c`. -/
def piece (s : State) (c : Char) (cs : List Char) : Piece :=
  if c = '\n' then endLine s cs
  else if isBlank c then ⟨[], s, cs⟩
  else if c = '#' then ⟨[], s, cs.dropWhile (· != '\n')⟩
  else if c = '\\' then continuation s cs
  else if c.isDigit then number s (c :: cs) (numberRest c cs)
  else if c = '.' ∧ (cs.head?.any Char.isDigit) = true then number s (c :: cs) (fractionRest cs)
  else if c = '"' ∨ c = '\'' then quotedText s (c :: cs) c cs
  else if isWordCharacter c then
    match textMark? (c :: cs) with
    | some mark =>
      match (c :: cs).drop mark.length with
      | quote :: rest => quotedText s (c :: cs) quote rest
      | [] => word s (c :: cs)
    | none => word s (c :: cs)
  else if openingBrackets.contains c then openBracket s c cs
  else
    match opening? c with
    | some opening => closeBracket s c opening cs
    | none => symbol s c cs

/-- Takes piece by piece; none of them leaves more behind it than stood there before. -/
def scan (s : State) (cs : List Char) : List Token :=
  match cs with
  | [] => ending s
  | c :: rest =>
    match piece s c rest with
    | ⟨taken, state, left⟩ =>
      if _h : left.length ≤ rest.length then taken ++ scan state left else taken
termination_by cs.length
decreasing_by
  simp only [List.length_cons]
  omega

end Lexer

/-- The lines of a text with all ends alike, that of the last one included. -/
def wholeLines (text : List Char) : List Char :=
  let lines := unifyLineEnds text
  if lines.getLast? = some '\n' then lines else lines ++ ['\n']

/-- The tokens of a text that begins on `line`, up to the first fault. -/
def tokensFrom (line : Nat) (text : List Char) : List Token :=
  let start := Lexer.startLine { line } (wholeLines text)
  start.tokens ++ Lexer.scan start.state start.rest

def tokens (text : List Char) : List Token := tokensFrom 1 text

end RecordBuilders.Target.Code
