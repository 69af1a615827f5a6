import RecordBuilders.Syntax.Token
import RecordBuilders.Text.Identifier

/-! Cutting a text into tokens, from left to right and without regard to the grammar. Blanks and
comments stand between tokens; a comment that is never closed is no comment. -/
namespace RecordBuilders.Syntax
open Text

namespace Lexer

def isBlank (c : Char) : Bool :=
  c == ' ' || c == '\t' || c == '\x0c' || c == '\r' || c == '\n'

/-- Splits behind the first `*/`, if there is one. -/
def splitComment : List Char → Option (List Char × List Char)
  | '*' :: '/' :: rest => some (['*', '/'], rest)
  | c :: rest => (splitComment rest).map fun (taken, left) => (c :: taken, left)
  | [] => none

/-- Splits behind the closing quote. A backslash takes the next character with it, but not a line
feed: such a string is never closed. -/
def splitString : List Char → Option (List Char × List Char)
  | '"' :: rest => some (['"'], rest)
  | '\\' :: c :: rest =>
    if c = '\n' then none
    else (splitString rest).map fun (taken, left) => ('\\' :: c :: taken, left)
  | ['\\'] => none
  | c :: rest => (splitString rest).map fun (taken, left) => (c :: taken, left)
  | [] => none

/-- What begins with a given character: a lexeme, or a blank or comment when there is none. The
piece is that character followed by `taken`. -/
structure Piece where
  lexeme? : Option Lexeme
  taken : List Char
  rest : List Char

def Piece.span (p : Char → Bool) (lexeme? : List Char → Option Lexeme) (cs : List Char) : Piece :=
  ⟨lexeme? (cs.takeWhile p), cs.takeWhile p, cs.dropWhile p⟩

def slashPiece : List Char → Piece
  | '/' :: cs =>
    ⟨none, '/' :: cs.takeWhile (· != '\n'), cs.dropWhile (· != '\n')⟩
  | '*' :: cs =>
    match splitComment cs with
    | some (taken, rest) => ⟨none, '*' :: taken, rest⟩
    | none => ⟨some (.symbol .slash), [], '*' :: cs⟩
  | cs => ⟨some (.symbol .slash), [], cs⟩

def lifetimePiece? : List Char → Option Piece
  | c :: cs =>
    if isWordStart c then
      let word := c :: cs.takeWhile isWordPart
      some ⟨some (.lifetime (String.ofList ('\'' :: word))), word, cs.dropWhile isWordPart⟩
    else none
  | [] => none

def colonPiece : List Char → Piece
  | ':' :: cs => ⟨some (.symbol .pathSep), [':'], cs⟩
  | cs => ⟨some (.symbol .colon), [], cs⟩

/-- The piece at the front of `c :: cs`; none if no lexeme begins with `c` there. -/
def piece? (c : Char) (cs : List Char) : Option Piece :=
  if isBlank c then some ⟨none, [], cs⟩
  else if isWordStart c then
    some (.span isWordPart (fun word => some (.ofWord (String.ofList (c :: word)))) cs)
  else if c.isDigit then
    some (.span (fun d => d.isDigit || d == '_')
      (fun digits => some (.number (String.ofList (c :: digits)))) cs)
  else if c = '/' then some (slashPiece cs)
  else if c = '\'' then lifetimePiece? cs
  else if c = '"' then
    (splitString cs).map fun (taken, rest) =>
      ⟨some (.string (String.ofList ('"' :: taken))), taken, rest⟩
  else if c = ':' then some (colonPiece cs)
  else (Symbol.ofChar? c).map fun s => ⟨some (.symbol s), [], cs⟩

theorem splitComment_append {cs taken rest : List Char} (h : splitComment cs = some (taken, rest)) :
    taken ++ rest = cs := by
  fun_induction splitComment cs generalizing taken with
  | case1 =>
    simp only [Option.some.injEq, Prod.mk.injEq] at h
    obtain ⟨rfl, rfl⟩ := h
    rfl
  | case2 c tail _ ih =>
    obtain ⟨⟨a, b⟩, ha, he⟩ := Option.map_eq_some_iff.mp h
    obtain ⟨rfl, rfl⟩ := Prod.mk.inj he
    simp [ih ha]
  | case3 => simp at h

theorem splitString_append {cs taken rest : List Char} (h : splitString cs = some (taken, rest)) :
    taken ++ rest = cs := by
  fun_induction splitString cs generalizing taken with
  | case1 =>
    simp only [Option.some.injEq, Prod.mk.injEq] at h
    obtain ⟨rfl, rfl⟩ := h
    rfl
  | case2 => simp at h
  | case3 c tail _ ih =>
    obtain ⟨⟨a, b⟩, ha, he⟩ := Option.map_eq_some_iff.mp h
    obtain ⟨rfl, rfl⟩ := Prod.mk.inj he
    simp [ih ha]
  | case4 => simp at h
  | case5 c tail _ _ _ ih =>
    obtain ⟨⟨a, b⟩, ha, he⟩ := Option.map_eq_some_iff.mp h
    obtain ⟨rfl, rfl⟩ := Prod.mk.inj he
    simp [ih ha]
  | case6 => simp at h

theorem slashPiece_append (cs : List Char) : (slashPiece cs).taken ++ (slashPiece cs).rest = cs := by
  unfold slashPiece
  split
  · simp
  · split
    · next h => simp [splitComment_append h]
    · rfl
  · rfl

theorem lifetimePiece?_append {cs : List Char} {p : Piece} (h : lifetimePiece? cs = some p) :
    p.taken ++ p.rest = cs := by
  unfold lifetimePiece? at h
  split at h
  · split at h
    · cases h; simp
    · simp at h
  · simp at h

theorem colonPiece_append (cs : List Char) : (colonPiece cs).taken ++ (colonPiece cs).rest = cs := by
  unfold colonPiece
  split <;> rfl

/-- A piece and what follows it make up the text. -/
theorem piece?_append {c : Char} {cs : List Char} {p : Piece} (h : piece? c cs = some p) :
    p.taken ++ p.rest = cs := by
  unfold piece? at h
  split at h
  · cases h; rfl
  split at h
  · cases h; simp [Piece.span]
  split at h
  · cases h; simp [Piece.span]
  split at h
  · cases h; exact slashPiece_append cs
  split at h
  · exact lifetimePiece?_append h
  split at h
  · obtain ⟨⟨a, b⟩, ha, rfl⟩ := Option.map_eq_some_iff.mp h
    exact splitString_append ha
  split at h
  · cases h; exact colonPiece_append cs
  · obtain ⟨s, _, rfl⟩ := Option.map_eq_some_iff.mp h
    rfl

theorem piece?_length {c : Char} {cs : List Char} {p : Piece} (h : piece? c cs = some p) :
    p.rest.length ≤ cs.length := by
  have := congrArg List.length (piece?_append h)
  simp only [List.length_append] at this
  omega

end Lexer

/-- A character at which no lexeme begins. -/
structure Stray where
  char : Char
  position : Position
  deriving Repr, DecidableEq

/-- The tokens of a text up to the first stray character, or all of them if there is none. -/
structure Scan where
  tokens : List Token
  stray : Option Stray
  deriving Repr, DecidableEq

def Scan.push (s : Scan) (lexeme? : Option Lexeme) (position : Position) : Scan :=
  match lexeme? with
  | none => s
  | some lexeme => { s with tokens := ⟨lexeme, position⟩ :: s.tokens }

/-- Scans a text that starts at `position`. -/
def scanFrom (position : Position) : List Char → Scan
  | [] => ⟨[], none⟩
  | c :: cs =>
    match _h : Lexer.piece? c cs with
    | none => ⟨[], some ⟨c, position⟩⟩
    | some p =>
      (scanFrom (position.advance (c :: p.taken)) p.rest).push p.lexeme? position
termination_by text => text.length
decreasing_by
  have := Lexer.piece?_length _h
  simp only [List.length_cons]
  omega

def scan (source : String) : Scan :=
  scanFrom {} source.toList

end RecordBuilders.Syntax
