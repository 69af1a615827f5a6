import RecordBuilders.Target.Code.Literal
import RecordBuilders.Target.Code.Token

/-! What quoted texts hold. Escapes stand behind backslashes, and the replacement fields of a
formatted text in braces; a field holds code. -/
namespace RecordBuilders.Target.Code
open Text

/-- A quoted text without its quotes. -/
structure Quotation where
  isBytes : Bool
  isRaw : Bool
  isFormatted : Bool
  content : List Char

namespace Quotation

/-- What stands between the quotes, of which there are three or one on each side. -/
def unquoted (text : List Char) : List Char :=
  match text with
  | a :: b :: c :: _ =>
    if a = b ∧ b = c ∧ 6 ≤ text.length then (text.drop 3).take (text.length - 6)
    else (text.drop 1).take (text.length - 2)
  | _ => []

def ofText (text : List Char) : Quotation :=
  let marks := (text.takeWhile Char.isAlpha).map Char.toLower
  { isBytes := marks.contains 'b'
    isRaw := marks.contains 'r'
    isFormatted := marks.contains 'f'
    content := unquoted (text.dropWhile Char.isAlpha) }

end Quotation

section Escapes

/-- The first escape in bytes that lacks a digit, by its place. -/
def bytesEscapeFault? (place : Nat) : List Char → Option Cause
  | '\\' :: 'x' :: a :: b :: cs =>
    if (hexValue a).isSome && (hexValue b).isSome then bytesEscapeFault? (place + 4) cs
    else some (.bytesEscape place)
  | '\\' :: 'x' :: _ => some (.bytesEscape place)
  | '\\' :: _ :: cs => bytesEscapeFault? (place + 2) cs
  | _ :: cs => bytesEscapeFault? (place + 1) cs
  | [] => none

/-- How many digits stand behind a mark. -/
def escapeDigits? (mark : Char) : Option Nat :=
  if mark = 'x' then some 2 else if mark = 'u' then some 4 else if mark = 'U' then some 8 else none

def digitsValue (digits : List Char) : Nat :=
  digits.foldl (fun value c => value * 16 + (hexValue c).getD 0) 0

/-- Characters of which the names of characters consist. -/
def isNameCharacter (c : Char) : Bool := c.isAlphanum || c == ' ' || c == '-'

/-- The length of the escape that begins with `mark`, or what is wrong with it and up to where. -/
def escapeLength (mark : Char) (cs : List Char) : Except (EscapeFault × Nat) Nat :=
  match escapeDigits? mark with
  | some count =>
    let digits := (cs.take count).takeWhile fun c => (hexValue c).isSome
    if digits.length < count then .error (.truncated mark count, digits.length)
    else if 0x10ffff < digitsValue digits then .error (.beyondUnicode, count)
    else .ok count
  | none =>
    if mark ≠ 'N' then .ok 0
    else
      match cs with
      | '\x7b' :: name =>
        let letters := name.takeWhile (· != '\x7d')
        if letters.length = name.length then .error (.malformedName, cs.length)
        else if letters.isEmpty then .error (.malformedName, 1)
        else if letters.all isNameCharacter then .ok (letters.length + 2)
        else .error (.unknownName, letters.length + 2)
      | _ => .error (.malformedName, 0)

/-- Characters that stand for themselves whatever they are, each in the room of its escape. -/
def spaced (cs : List Char) : List Char :=
  cs.flatMap fun c => if c.toNat < 0x80 then [c] else List.replicate 10 'X'

/-- A backslash that a wide character follows takes up the room of an escape, too. -/
def widened : List Char → List Char
  | '\\' :: c :: cs =>
    if c.toNat < 0x80 then '\\' :: c :: widened cs
    else List.replicate 16 'X' ++ widened cs
  | c :: cs => spaced [c] ++ widened cs
  | [] => []

/-- The first escape in a text that is at fault. -/
def escapesFault? : Nat → Nat → List Char → Option Cause
  | 0, _, _ => none
  | n + 1, place, cs =>
    match cs with
    | '\\' :: mark :: rest =>
      match escapeLength mark rest with
      | .ok length => escapesFault? n (place + 2 + length) (rest.drop length)
      | .error (fault, length) => some (.textEscape fault place (place + 1 + length))
    | _ :: rest => escapesFault? n (place + 1) rest
    | [] => none

def textEscapeFault? (cs : List Char) : Option Cause :=
  let cs := widened cs
  escapesFault? (cs.length + 1) 0 cs

end Escapes

section Fields

/-- The code of a replacement field and the line on which it stands, or what is wrong behind the
codes before it. -/
inductive Fragment where
  | code (text : List Char) (line : Nat)
  | faulty (cause : Cause)

def isBrace (c : Char) : Bool := c == '\x7b' || c == '\x7d'

/-- How many characters behind `c` belong to it whatever they are. The name of a character stands in
braces that open no field. -/
def protectedLength (isRaw : Bool) (c : Char) (cs : List Char) : Nat :=
  if isRaw || c != '\\' then 0
  else
    match cs with
    | 'N' :: '\x7b' :: name => 3 + (name.takeWhile (· != '\x7d')).length
    | 'N' :: _ => 2
    | d :: _ => if isBrace d then 0 else 1
    | [] => 0

/-- How the literal part of a formatted text ends, with what stands behind it. -/
inductive LiteralEnd where
  | doubled (rest : List Char)
  | stray
  | opening (rest : List Char)
  | closing (rest : List Char)

/-- What a brace means. Two of them stand for one, but not in the format of a field. -/
def braceEnd (isTop : Bool) (c : Char) (cs : List Char) : LiteralEnd :=
  if isTop && cs.head? == some c then .doubled cs.tail
  else if c = '\x7b' then .opening cs
  else if isTop then .stray
  else .closing (c :: cs)

/-- The literal up to a brace, and how it ends. -/
def literalPart (isRaw isTop : Bool) : List Char → List Char × LiteralEnd
  | [] => ([], .closing [])
  | c :: cs =>
    if isBrace c then
      match braceEnd isTop c cs with
      | .doubled rest => ([c], .doubled rest)
      | ending => ([], ending)
    else
      let length := protectedLength isRaw c cs
      let (literal, ending) := literalPart isRaw isTop (cs.drop length)
      (c :: cs.take length ++ literal, ending)
termination_by cs => cs.length
decreasing_by
  simp only [List.length_drop, List.length_cons]
  omega

/-- Signs that end the code of a field outside of brackets, or begin an operator. -/
def endingSigns : List Char := ['!', ':', '\x7d', '=', '>', '<']

/-- The code of a field and what stands behind it. A text within the code goes on to `quote`, which
stands there three times if `isBlock`; `brackets` are open. -/
def codePart (quote : Option Char) (isBlock : Bool) (brackets : List Char) :
    List Char → Except FieldFault (List Char × List Char)
  | [] =>
    match quote, brackets with
    | some _, _ => .error .unterminatedText
    | none, opening :: _ => .error (.unmatched opening)
    | none, [] => .error .unclosed
  | c :: cs =>
    let goOn (quote : Option Char) (isBlock : Bool) (brackets : List Char) := do
      let (code, rest) ← codePart quote isBlock brackets cs
      return (c :: code, rest)
    if c = '\\' then .error .backslash
    else
      match quote with
      | some q =>
        if c ≠ q then goOn quote isBlock brackets
        else if isBlock then
          if cs.take 2 = [q, q] then do
            let (code, rest) ← codePart none false brackets (cs.drop 2)
            return (q :: q :: q :: code, rest)
          else goOn quote isBlock brackets
        else goOn none false brackets
      | none =>
        if c = '"' ∨ c = '\'' then
          if cs.take 2 = [c, c] then do
            let (code, rest) ← codePart (some c) true brackets (cs.drop 2)
            return (c :: c :: c :: code, rest)
          else goOn (some c) false brackets
        else if openingBrackets.contains c then
          if maxDepth ≤ brackets.length then .error .tooManyBrackets
          else goOn none false (c :: brackets)
        else if c = '#' then .error .hashSign
        else if brackets.isEmpty && endingSigns.contains c then
          if cs.head? = some '=' ∧ c ≠ ':' ∧ c ≠ '\x7d' then do
            let (code, rest) ← codePart none false brackets (cs.drop 1)
            return (c :: '=' :: code, rest)
          else if c = '>' ∨ c = '<' then goOn none false brackets
          else .ok ([], c :: cs)
        else
          match opening? c with
          | none => goOn none false brackets
          | some opening =>
            match brackets with
            | [] => .error (.unmatched c)
            | innermost :: outer =>
              if innermost = opening then goOn none false outer
              else .error (.mismatched c innermost)
termination_by cs => cs.length
decreasing_by
  all_goals simp only [List.length_drop, List.length_cons]
  all_goals omega

def isSpace (c : Char) : Bool := [' ', '\t', '\n', '\x0b', '\x0c', '\r'].contains c

def lineEnds (cs : List Char) : Nat := cs.count '\n'

/-- What stands between the code of a field and its format: an equal sign and a conversion. -/
def fieldMarks (rest : List Char) : Except FieldFault (List Char) := do
  let rest := if rest.head? = some '=' then rest.tail.dropWhile isSpace else rest
  let rest ←
    if rest.head? = some '!' then
      match rest.tail with
      | [] => throw .unclosed
      | c :: rest => if c = 's' ∨ c = 'r' ∨ c = 'a' then pure rest else throw .conversion
    else pure rest
  if rest.isEmpty then throw .unclosed else return rest

/-- A field without any code. The sign behind it is told. -/
def emptyField (rest : List Char) : FieldFault :=
  match rest with
  | sign :: _ => if sign = '\x7d' then .empty else .missingBefore sign
  | [] => .empty

/-- Where reading goes on, and on which line. Without it, a fault has been found. -/
abbrev Onward := Option (List Char × Nat)

mutual

/-- The fields of a formatted text, up to the first fault. Formats may hold fields, but only at the
first level. -/
def fragments (isRaw : Bool) : Nat → (level line : Nat) → List Char → List Fragment × Onward
  | 0, _, _, _ => ([], none)
  | n + 1, level, line, cs =>
    let (literal, ending) := literalPart isRaw (level == 0) cs
    let line := line + lineEnds literal
    let faulty (cause : Cause) : List Fragment × Onward := ([.faulty cause], none)
    match ending, if isRaw then none else textEscapeFault? literal with
    | .stray, _ => faulty (.field .strayClosing)
    | _, some cause => faulty cause
    | .doubled rest, none => fragments isRaw n level line rest
    | .closing rest, none =>
      if level ≠ 0 ∧ rest.isEmpty then faulty (.field .unclosed) else ([], some (rest, line))
    | .opening rest, none =>
      match field isRaw n level line rest with
      | (found, none) => (found, none)
      | (found, some (rest, line)) =>
        let (others, onward) := fragments isRaw n level line rest
        (found ++ others, onward)

/-- A field behind its opening brace. -/
def field (isRaw : Bool) : Nat → (level line : Nat) → List Char → List Fragment × Onward
  | 0, _, _, _ => ([], none)
  | n + 1, level, line, cs =>
    if 2 ≤ level then ([.faulty (.field .tooDeep)], none)
    else
      match codePart none false [] cs with
      | .error fault => ([.faulty (.field fault)], none)
      | .ok (code, rest) =>
        if code.all fun c => isSpace c && c != '\x0b' then
          ([.faulty (.field (emptyField rest))], none)
        else
          let found := Fragment.code code line
          match fieldMarks rest with
          | .error fault => ([found, .faulty (.field fault)], none)
          | .ok marked =>
            let line := line + lineEnds (cs.take (cs.length - marked.length))
            let (others, onward) := fieldFormat isRaw n level line marked
            (found :: others, onward)

/-- The format of a field, if it has one, and the closing brace. -/
def fieldFormat (isRaw : Bool) : Nat → (level line : Nat) → List Char → List Fragment × Onward
  | 0, _, _, _ => ([], none)
  | n + 1, level, line, cs =>
    let unclosed := Fragment.faulty (.field .unclosed)
    match cs with
    | ':' :: rest =>
      match fragments isRaw n (level + 1) line rest with
      | (found, none) => (found, none)
      | (found, some (rest, line)) =>
        if rest.head? = some '\x7d' then (found, some (rest.tail, line))
        else (found ++ [unclosed], none)
    | '\x7d' :: rest => ([], some (rest, line))
    | _ => ([unclosed], none)

end

/-- The codes in a formatted text whose token begins on `line`. -/
def Quotation.fragments (q : Quotation) (line : Nat) : List Fragment :=
  (Code.fragments q.isRaw (2 * q.content.length + 8) 0 line q.content).1

end Fields

end RecordBuilders.Target.Code
