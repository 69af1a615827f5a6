import RecordBuilders.Target.Code.Fault
import RecordBuilders.Text.Identifier

/-! Numbers and quoted texts of the target language. Only their extent matters: each function
returns what stands behind the literal. -/
namespace RecordBuilders.Target.Code
open Text

def isOctalDigit (c : Char) : Bool := decide ('0' ≤ c) && decide (c ≤ '7')

def isBinaryDigit (c : Char) : Bool := c == '0' || c == '1'

/-- Characters that cannot end a word. -/
def isWordCharacter (c : Char) : Bool := isWordPart c || decide (0x80 ≤ c.toNat)

/-- Operators that may stand directly behind a number as whole words. -/
def wordsBehindNumbers : List String := ["and", "else", "for", "not", "or"]

/-- What a word directly behind a number may begin with, whatever follows. -/
def startsBehindNumbers : List String := ["if", "in", "is"]

/-- An operator directly behind a number. -/
def startsOperator (cs : List Char) : Bool :=
  let word := cs.takeWhile isWordCharacter
  wordsBehindNumbers.any (·.toList == word) ||
    startsBehindNumbers.any (·.toList.isPrefixOf word)

/-- A number is not followed by a word, a few operators apart. -/
def endNumber (of : Numeral) (cs : List Char) : Except Cause (List Char) :=
  if cs.head?.any isWordCharacter && !startsOperator cs then .error (.number of)
  else .ok cs

/-- Decimal digits behind a first one. One underscore may stand between two digits. -/
def decimalRest : List Char → Except Cause (List Char)
  | [] => .ok []
  | '_' :: d :: cs => if d.isDigit then decimalRest cs else .error (.number .decimal)
  | ['_'] => .error (.number .decimal)
  | c :: cs => if c.isDigit then decimalRest cs else .ok (c :: cs)

/-- Digits behind a mark such as `0x`. An underscore may stand before each of them. -/
def radixRest (of : Numeral) (isDigit : Char → Bool) (underscore mayEnd : Bool) :
    List Char → Except Cause (List Char)
  | [] => if mayEnd then .ok [] else .error (.number of)
  | c :: cs =>
    if isDigit c then radixRest of isDigit true true cs
    else if c = '_' ∧ underscore = true then radixRest of isDigit false false cs
    else if c.isDigit then .error (.digit c of)
    else if mayEnd then endNumber of (c :: cs)
    else .error (.number of)

def imaginaryRest (cs : List Char) : Except Cause (List Char) :=
  match cs with
  | 'j' :: cs | 'J' :: cs => endNumber .imaginary cs
  | cs => endNumber .decimal cs

/-- An `e` without digits behind it is no exponent. -/
def exponentRest (cs : List Char) : Except Cause (List Char) :=
  match cs with
  | [] => .ok []
  | e :: c :: cs =>
    if e = 'e' ∨ e = 'E' then
      if c.isDigit then decimalRest cs >>= imaginaryRest
      else if c = '+' ∨ c = '-' then
        match cs with
        | d :: cs =>
          if d.isDigit then decimalRest cs >>= imaginaryRest else .error (.number .decimal)
        | [] => .error (.number .decimal)
      else endNumber .decimal (e :: c :: cs)
    else imaginaryRest (e :: c :: cs)
  | cs => imaginaryRest cs

/-- What may follow the point of a number. -/
def fractionRest (cs : List Char) : Except Cause (List Char) :=
  match cs with
  | d :: rest => if d.isDigit then decimalRest rest >>= exponentRest else exponentRest cs
  | [] => .ok []

def pointRest (cs : List Char) : Except Cause (List Char) :=
  match cs with
  | '.' :: cs => fractionRest cs
  | cs => exponentRest cs

/-- The first characters of a number with a point, an exponent or an imaginary part, behind its
digits. -/
def isFractional (cs : List Char) : Bool :=
  match cs with
  | c :: _ => ['.', 'e', 'E', 'j', 'J'].contains c
  | [] => false

/-- A number that begins with zero has no other digits, unless it is fractional. -/
def zeroRest (cs : List Char) : Except Cause (List Char) := do
  let rest ← decimalRest cs
  let digits := cs.takeWhile fun c => c.isDigit || c == '_'
  if digits.any (fun c => c.isDigit && c != '0') && !isFractional rest then
    throw .leadingZeros
  pointRest rest

/-- The rest behind a number whose first digit is `c`. -/
def numberRest (c : Char) (cs : List Char) : Except Cause (List Char) :=
  if c = '0' then
    match cs with
    | 'x' :: cs | 'X' :: cs => radixRest .hexadecimal (fun c => (hexValue c).isSome) true false cs
    | 'o' :: cs | 'O' :: cs => radixRest .octal isOctalDigit true false cs
    | 'b' :: cs | 'B' :: cs => radixRest .binary isBinaryDigit true false cs
    | cs => zeroRest cs
  else decimalRest cs >>= pointRest

/-- Letters, of either case, that may stand before an opening quote. -/
def textMarks : List String := ["b", "br", "f", "fr", "r", "rb", "rf", "u"]

/-- The mark of a quoted text, if one begins here. -/
def textMark? (cs : List Char) : Option (List Char) :=
  let mark := cs.takeWhile Char.isAlpha
  match cs.dropWhile Char.isAlpha with
  | c :: _ =>
    if (c = '"' ∨ c = '\'') ∧ textMarks.contains (String.ofList (mark.map Char.toLower)) then
      some mark
    else none
  | [] => none

/-- The line of what follows `c`. Behind the last line, no other begins. -/
def lineBehind (c : Char) (line : Nat) (cs : List Char) : Nat :=
  if c = '\n' ∧ cs.isEmpty = false then line + 1 else line

/-- The rest of a text on one line, and the line on which it ends. A backslash takes the next
character with it, even the end of a line. -/
def lineTextRest (quote : Char) (line : Nat) : List Char → Except Nat (List Char × Nat)
  | [] => .error line
  | ['\\'] => .error line
  | '\\' :: c :: cs => lineTextRest quote (lineBehind c line cs) cs
  | c :: cs =>
    if c = quote then .ok (cs, line)
    else if c = '\n' then .error line
    else lineTextRest quote line cs

/-- The rest of a text between triple quotes. -/
def blockTextRest (quote : Char) (line : Nat) : List Char → Except Nat (List Char × Nat)
  | [] => .error line
  | ['\\'] => .error line
  | '\\' :: c :: cs => blockTextRest quote (lineBehind c line cs) cs
  | c :: cs =>
    if c = quote ∧ cs.take 2 = [quote, quote] then .ok (cs.drop 2, line)
    else blockTextRest quote (lineBehind c line cs) cs

/-- The rest behind a quoted text that begins on `line` with `quote`, and the line of its end. -/
def textRest (quote : Char) (line : Nat) (cs : List Char) : Except Cause (List Char × Nat) :=
  if cs.take 2 = [quote, quote] then
    (blockTextRest quote line (cs.drop 2)).mapError (.unterminatedText true)
  else (lineTextRest quote line cs).mapError (.unterminatedText false)

end RecordBuilders.Target.Code
