import RecordBuilders.Json.Basic
import RecordBuilders.Text.Hex
import RecordBuilders.Text.Position

/-! Reading JSON. The three non-finite numbers are read too. Each failure has its place in the
text: a string that is never closed fails at its opening quote, all else where reading stopped. -/
namespace RecordBuilders.Json
open Text

/-- Integers may have no more digits. -/
def digitLimit : Nat := 4300

/-- A surrogate without its partner is no character, and texts are made of characters here: reading
stops at it, though it could be kept in texts of another kind. -/
inductive Fault where
  | value
  | memberName
  | colon
  | comma
  | extraData
  | unterminatedString
  | controlCharacter
  | escape
  | unicodeEscape
  | byteOrderMark
  | longInteger (digits : Nat)
  | surrogate
  deriving Repr, DecidableEq

def Fault.text : Fault → String
  | .value => "Expecting value"
  | .memberName => "Expecting property name enclosed in double quotes"
  | .colon => "Expecting ':' delimiter"
  | .comma => "Expecting ',' delimiter"
  | .extraData => "Extra data"
  | .unterminatedString => "Unterminated string starting at"
  | .controlCharacter => "Invalid control character at"
  | .escape => "Invalid \\escape"
  | .unicodeEscape => "Invalid \\uXXXX escape"
  | .byteOrderMark => "Unexpected UTF-8 BOM (decode using utf-8-sig)"
  | .longInteger digits =>
    "Exceeds the limit (" ++ toString digitLimit ++ " digits) for integer string conversion: " ++
      "value has " ++ toString digits ++ " digits; use sys.set_int_max_str_digits() to increase " ++
      "the limit"
  | .surrogate => "Half of a surrogate pair"

/-- A fault and the number of characters before it. -/
structure ReadError where
  fault : Fault
  position : Position
  offset : Nat
  deriving Repr, DecidableEq

/-- All faults are placed, except that of a number. -/
def ReadError.message (e : ReadError) : String :=
  match e.fault with
  | .longInteger _ => e.fault.text
  | _ =>
    e.fault.text ++ ": line " ++ toString e.position.line ++ " column " ++
      toString e.position.column ++ " (char " ++ toString e.offset ++ ")"

/-- While reading, a fault is placed by the text from it on. -/
structure Failure where
  fault : Fault
  rest : List Char

/-- Takes something from the front of a text. -/
abbrev Step (α : Type) := List Char → Except Failure (α × List Char)

def isBlank (c : Char) : Bool := c == ' ' || c == '\t' || c == '\n' || c == '\r'

def skipBlanks (text : List Char) : List Char := text.dropWhile isBlank

def plainEscape? : Char → Option Char
  | '"' => some '"'
  | '\\' => some '\\'
  | '/' => some '/'
  | 'b' => some '\x08'
  | 'f' => some '\x0c'
  | 'n' => some '\n'
  | 'r' => some '\r'
  | 't' => some '\t'
  | _ => none

def codeUnit? (a b c d : Char) : Option Nat := do
  return (← hexValue a) * 4096 + (← hexValue b) * 256 + (← hexValue c) * 16 + (← hexValue d)

def isHighSurrogate (n : Nat) : Bool := decide (0xD800 ≤ n ∧ n ≤ 0xDBFF)

def isLowSurrogate (n : Nat) : Bool := decide (0xDC00 ≤ n ∧ n ≤ 0xDFFF)

def joinSurrogates (high low : Nat) : Char :=
  Char.ofNat (0x10000 + (high - 0xD800) * 0x400 + (low - 0xDC00))

/-- The character of a code unit by itself. -/
def ofCodeUnit? (n : Nat) : Option Char :=
  if isHighSurrogate n || isLowSurrogate n then none else some (Char.ofNat n)

/-- The code unit of an escape at the front of the text, behind which the text goes on. The inner
option is empty if the escape is malformed. -/
def nextCodeUnit? : List Char → Option (Option Nat)
  | '\\' :: 'u' :: a :: b :: c :: d :: _ :: _ => some (codeUnit? a b c d)
  | _ => none

/-- Reads a string behind its opening quote, `start` being the text from that quote on. -/
def readString (start : List Char) : Step (List Char)
  | [] => .error ⟨.unterminatedString, start⟩
  | '"' :: rest => .ok ([], rest)
  | '\\' :: 'u' :: a :: b :: c :: d :: e :: rest =>
    match codeUnit? a b c d with
    | none => .error ⟨.unicodeEscape, 'u' :: a :: b :: c :: d :: e :: rest⟩
    | some unit =>
      match if isHighSurrogate unit then nextCodeUnit? (e :: rest) else none with
      | some none => .error ⟨.unicodeEscape, rest⟩
      | some (some low) =>
        if isLowSurrogate low then prepend (joinSurrogates unit low) (readString start (rest.drop 5))
        else .error ⟨.surrogate, '\\' :: 'u' :: a :: b :: c :: d :: e :: rest⟩
      | none =>
        match ofCodeUnit? unit with
        | some character => prepend character (readString start (e :: rest))
        | none => .error ⟨.surrogate, '\\' :: 'u' :: a :: b :: c :: d :: e :: rest⟩
  | '\\' :: 'u' :: rest => .error ⟨.unicodeEscape, 'u' :: rest⟩
  | ['\\'] => .error ⟨.unterminatedString, start⟩
  | '\\' :: e :: rest =>
    match plainEscape? e with
    | some c => prepend c (readString start rest)
    | none => .error ⟨.escape, '\\' :: e :: rest⟩
  | c :: rest =>
    if c.toNat < 32 then .error ⟨.controlCharacter, c :: rest⟩
    else prepend c (readString start rest)
termination_by text => text.length
decreasing_by
  all_goals
    simp only [List.length_cons, List.length_drop]
    omega
where
  prepend (c : Char) (found : Except Failure (List Char × List Char)) :
      Except Failure (List Char × List Char) :=
    found.map fun (text, rest) => (c :: text, rest)

def digitsValue (digits : List Char) : Nat :=
  digits.foldl (fun n c => n * 10 + (c.toNat - 48)) 0

def splitDigits (text : List Char) : List Char × List Char :=
  (text.takeWhile Char.isDigit, text.dropWhile Char.isDigit)

/-- The digits behind a point, if there are any. -/
def readFraction? : List Char → Option (List Char × List Char)
  | '.' :: text =>
    match splitDigits text with
    | ([], _) => none
    | split => some split
  | _ => none

/-- The exponent behind its letter, if it has digits. -/
def readExponent? : List Char → Option (Int × List Char)
  | c :: text =>
    if c = 'e' ∨ c = 'E' then
      let (negative, text) :=
        match text with
        | '-' :: rest => (true, rest)
        | '+' :: rest => (false, rest)
        | _ => (false, text)
      match splitDigits text with
      | ([], _) => none
      | (digits, rest) =>
        let n := Int.ofNat (digitsValue digits)
        some (if negative then -n else n, rest)
    else none
  | [] => none

/-- A zero ends the integral part of a number that it begins. -/
def readIntegral? : List Char → Option (List Char × List Char)
  | '0' :: text => some (['0'], text)
  | text =>
    match splitDigits text with
    | ([], _) => none
    | split => some split

/-- The longest number at the front of the text. -/
def readNumber? (text : List Char) : Option (Json × List Char) := do
  let (negative, unsigned) :=
    match text with
    | '-' :: rest => (true, rest)
    | _ => (false, text)
  let (integral, rest) ← readIntegral? unsigned
  let fraction? := readFraction? rest
  let (fraction, rest) := fraction?.getD ([], rest)
  let exponent? := readExponent? rest
  let (exponent, rest) := exponent?.getD (0, rest)
  let digits := digitsValue (integral ++ fraction)
  if fraction?.isNone && exponent?.isNone then
    return (.integer (if negative then -Int.ofNat digits else Int.ofNat digits), rest)
  else
    return (.decimal ⟨negative, digits, exponent - fraction.length⟩, rest)

/-- The constants, by their spelling. -/
def constants : List (String × Json) :=
  [("null", .null), ("true", .bool true), ("false", .bool false), ("NaN", .nonFinite .nan),
    ("Infinity", .nonFinite .infinity), ("-Infinity", .nonFinite .negativeInfinity)]

def readConstant? (text : List Char) : Option (Json × List Char) :=
  constants.findSome? fun (word, value) =>
    (word.toList.isPrefixOf? text).map fun rest => (value, rest)

/-- Items up to the closing bracket, of which there is at least one; `item` starts at a
character that is not blank. -/
def readItems (item : Step Json) : Nat → Step (List Json)
  | 0, text => .error ⟨.value, text⟩
  | bound + 1, text => do
    let (first, rest) ← item text
    match skipBlanks rest with
    | ']' :: rest => return ([first], rest)
    | ',' :: rest =>
      let (items, rest) ← readItems item bound (skipBlanks rest)
      return (first :: items, rest)
    | rest => throw ⟨.comma, rest⟩

def readMember (item : Step Json) : Step (String × Json)
  | '"' :: text => do
    let (name, rest) ← readString ('"' :: text) text
    match skipBlanks rest with
    | ':' :: rest =>
      let (value, rest) ← item (skipBlanks rest)
      return ((String.ofList name, value), rest)
    | rest => throw ⟨.colon, rest⟩
  | text => throw ⟨.memberName, text⟩

def readMembers (item : Step Json) : Nat → Step (List (String × Json))
  | 0, text => .error ⟨.memberName, text⟩
  | bound + 1, text => do
    let (first, rest) ← readMember item text
    match skipBlanks rest with
    | '\x7d' :: rest => return ([first], rest)
    | ',' :: rest =>
      let (members, rest) ← readMembers item bound (skipBlanks rest)
      return (first :: members, rest)
    | rest => throw ⟨.comma, rest⟩

/-- A value that starts at the front of the text and is nested at most `depth` deep. -/
def readValue : (depth : Nat) → Step Json
  | 0, text => .error ⟨.value, text⟩
  | depth + 1, text =>
    match text with
    | '"' :: rest => do
      let (value, rest) ← readString text rest
      return (.string (String.ofList value), rest)
    | '\x7b' :: rest =>
      match skipBlanks rest with
      | '\x7d' :: rest => .ok (.object [], rest)
      | rest => do
        let (members, rest) ← readMembers (readValue depth) rest.length rest
        return (.object (membersOf members), rest)
    | '[' :: rest =>
      match skipBlanks rest with
      | ']' :: rest => .ok (.array [], rest)
      | rest => do
        let (items, rest) ← readItems (readValue depth) (rest.length + 1) rest
        return (.array items, rest)
    | _ =>
      match readConstant? text <|> readNumber? text with
      | some (.integer n, rest) =>
        let digits := (Nat.toDigits 10 n.natAbs).length
        if digits ≤ digitLimit then .ok (.integer n, rest)
        else .error ⟨.longInteger digits, text⟩
      | some found => .ok found
      | none => .error ⟨.value, text⟩

/-- A whole text: one value and blanks around it. -/
def readText (text : List Char) : Except Failure Json :=
  match text with
  | '\uFEFF' :: _ => .error ⟨.byteOrderMark, text⟩
  | _ => do
    let (value, rest) ← readValue (text.length + 1) (skipBlanks text)
    match skipBlanks rest with
    | [] => return value
    | rest => throw ⟨.extraData, rest⟩

def Failure.toReadError (text : List Char) (f : Failure) : ReadError :=
  let before := text.take (text.length - f.rest.length)
  ⟨f.fault, ({} : Position).advance before, before.length⟩

def parse (text : List Char) : Except ReadError Json :=
  (readText text).mapError (·.toReadError text)

end RecordBuilders.Json
