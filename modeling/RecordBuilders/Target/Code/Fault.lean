import RecordBuilders.Text.Quoted

/-! Why a text is no legal code of the target language, and how that is reported. -/
namespace RecordBuilders.Target.Code
open Text

/-- The way in which a malformed number is written. -/
inductive Numeral where
  | decimal | hexadecimal | octal | binary | imaginary
  deriving Repr, DecidableEq

def Numeral.word : Numeral → String
  | .decimal => "decimal"
  | .hexadecimal => "hexadecimal"
  | .octal => "octal"
  | .binary => "binary"
  | .imaginary => "imaginary"

/-- How a quoted text can go wrong behind a backslash. -/
inductive EscapeFault where
  | truncated (mark : Char) (digits : Nat)
  | beyondUnicode
  | malformedName
  | unknownName
  deriving Repr, DecidableEq

/-- What can be wrong with a replacement field of a formatted text. -/
inductive FieldFault where
  | strayClosing
  | tooDeep
  | backslash
  | hashSign
  | tooManyBrackets
  | unmatched (bracket : Char)
  | mismatched (closing opening : Char)
  | unterminatedText
  | unclosed
  | empty
  | missingBefore (sign : Char)
  | conversion
  deriving Repr, DecidableEq

inductive Cause where
  | invalid
  | missingComma
  | missingElse
  | missing (symbol : String)
  | missingHandler
  | missingBlock (statement : Option (String × Nat))
  | missingCallBrackets (name : String)
  | equalSign
  | comparisonSign (target : String)
  | assignment (target : String)
  | deletion (target : String)
  | augmented (target : String)
  | assignedYield
  | namedExpression (target : String)
  | argumentAssignment
  | positionalArgument (last : String)
  | unpackedSequence
  | bareGenerator
  | missingEntryColon
  | missingEntryValue
  | starredEntryValue
  | singleTarget (target : String)
  | hintedTarget
  | starred
  | doubleStarred
  | unpackedElement
  | unpackedEntry
  | bareElements
  | bracketedParameters (function : String)
  | parameterOrder
  | missingDefault
  | nothingBeforeSlash
  | repeatedSlash
  | slashBehindStar
  | missingCommaBeforeStar
  | bareStar
  | repeatedStar
  | defaultOfRest (kind : String)
  | behindRest
  | trailingComma
  | severalExceptions
  | noException
  | mixedHandlers
  | underscoreTarget
  | patternTarget
  | positionalPattern
  | realNumber
  | imaginaryNumber
  | unmatched (closing : Char)
  | mismatched (closing opening : Char) (openedElsewhere : Option Nat)
  | unclosed (opening : Char)
  | tooManyBrackets
  | number (of : Numeral)
  | digit (c : Char) (of : Numeral)
  | leadingZeros
  | unterminatedText (multiline : Bool) (lastLine : Nat)
  | character (c : Char)
  | continuation
  | endOfText
  | nulCharacter
  | indented
  | unindented
  | unindentedBetween
  | mixedIndentation
  | bytesBesideText
  | bytesCharacter
  | bytesEscape (place : Nat)
  | textEscape (fault : EscapeFault) (first last : Nat)
  | field (fault : FieldFault)
  | within (cause : Cause)
  | deferred (construct : String)
  | yieldWithin (comprehension : String)
  | namedInClass
  | namedIterated (name : String)
  | iteratedNamed (name : String)
  | namedInIterable
  | repeatedParameter (name : String)
  | boundDebugFlag
  | repeatedArgument (name : String)
  deriving Repr, DecidableEq

/-- At least four hexadecimal digits in upper case. -/
def codePointText (c : Char) : String :=
  let n := c.toNat
  let width := if n < 0x10000 then 4 else if n < 0x100000 then 5 else 6
  "U+" ++ String.ofList ((hexDigits width n).map Char.toUpper)

def EscapeFault.text : EscapeFault → String
  | .truncated mark digits =>
    "truncated \\" ++ String.singleton mark ++ String.ofList (List.replicate digits 'X') ++ " escape"
  | .beyondUnicode => "illegal Unicode character"
  | .malformedName => "malformed \\N character escape"
  | .unknownName => "unknown Unicode character name"

def FieldFault.text (fault : FieldFault) : String :=
  "f-string" ++
    match fault with
    | .strayClosing => ": single '\x7d' is not allowed"
    | .tooDeep => ": expressions nested too deeply"
    | .backslash => " expression part cannot include a backslash"
    | .hashSign => " expression part cannot include '#'"
    | .tooManyBrackets => ": too many nested parenthesis"
    | .unmatched bracket => ": unmatched '" ++ String.singleton bracket ++ "'"
    | .mismatched closing opening =>
      ": closing parenthesis '" ++ String.singleton closing ++
        "' does not match opening parenthesis '" ++ String.singleton opening ++ "'"
    | .unterminatedText => ": unterminated string"
    | .unclosed => ": expecting '\x7d'"
    | .empty => ": empty expression not allowed"
    | .missingBefore sign => ": expression required before '" ++ String.singleton sign ++ "'"
    | .conversion => ": invalid conversion character: expected 's', 'r', or 'a'"

namespace Cause

def text : Cause → String
  | .invalid => "invalid syntax"
  | .missingComma => "invalid syntax. Perhaps you forgot a comma?"
  | .missingElse => "expected 'else' after 'if' expression"
  | .missing symbol => "expected '" ++ symbol ++ "'"
  | .missingHandler => "expected 'except' or 'finally' block"
  | .missingBlock none => "expected an indented block"
  | .missingBlock (some (statement, line)) =>
    "expected an indented block after " ++ statement ++ " on line " ++ toString line
  | .missingCallBrackets name =>
    "Missing parentheses in call to '" ++ name ++ "'. Did you mean " ++ name ++ "(...)?"
  | .equalSign => "invalid syntax. Maybe you meant '==' or ':=' instead of '='?"
  | .comparisonSign target =>
    "cannot assign to " ++ target ++ " here. Maybe you meant '==' instead of '='?"
  | .assignment target => "cannot assign to " ++ target
  | .deletion target => "cannot delete " ++ target
  | .augmented target => "'" ++ target ++ "' is an illegal expression for augmented assignment"
  | .assignedYield => "assignment to yield expression not possible"
  | .namedExpression target => "cannot use assignment expressions with " ++ target
  | .argumentAssignment => "expression cannot contain assignment, perhaps you meant \"==\"?"
  | .positionalArgument last => "positional argument follows " ++ last
  | .unpackedSequence => "iterable argument unpacking follows keyword argument unpacking"
  | .bareGenerator => "Generator expression must be parenthesized"
  | .missingEntryColon => "':' expected after dictionary key"
  | .missingEntryValue => "expression expected after dictionary key and ':'"
  | .starredEntryValue => "cannot use a starred expression in a dictionary value"
  | .singleTarget target => "only single target (not " ++ target ++ ") can be annotated"
  | .hintedTarget => "illegal target for annotation"
  | .starred => "cannot use starred expression here"
  | .doubleStarred => "cannot use double starred expression here"
  | .unpackedElement => "iterable unpacking cannot be used in comprehension"
  | .unpackedEntry => "dict unpacking cannot be used in dict comprehension"
  | .bareElements => "did you forget parentheses around the comprehension target?"
  | .bracketedParameters function => function ++ " parameters cannot be parenthesized"
  | .parameterOrder => "non-default argument follows default argument"
  | .missingDefault => "expected default value expression"
  | .nothingBeforeSlash => "at least one argument must precede /"
  | .repeatedSlash => "/ may appear only once"
  | .slashBehindStar => "/ must be ahead of *"
  | .missingCommaBeforeStar => "expected comma between / and *"
  | .bareStar => "named arguments must follow bare *"
  | .repeatedStar => "* argument may appear only once"
  | .defaultOfRest kind => kind ++ " argument cannot have default value"
  | .behindRest => "arguments cannot follow var-keyword argument"
  | .trailingComma => "trailing comma not allowed without surrounding parentheses"
  | .severalExceptions => "multiple exception types must be parenthesized"
  | .noException => "expected one or more exception types"
  | .mixedHandlers => "cannot have both 'except' and 'except*' on the same 'try'"
  | .underscoreTarget => "cannot use '_' as a target"
  | .patternTarget => "invalid pattern target"
  | .positionalPattern => "positional patterns follow keyword patterns"
  | .realNumber => "real number required in complex literal"
  | .imaginaryNumber => "imaginary number required in complex literal"
  | .unmatched closing => "unmatched '" ++ String.singleton closing ++ "'"
  | .mismatched closing opening openedElsewhere =>
    "closing parenthesis '" ++ String.singleton closing ++
      "' does not match opening parenthesis '" ++ String.singleton opening ++ "'" ++
      match openedElsewhere with
      | some line => " on line " ++ toString line
      | none => ""
  | .unclosed opening => "'" ++ String.singleton opening ++ "' was never closed"
  | .tooManyBrackets => "too many nested parentheses"
  | .number of => "invalid " ++ of.word ++ " literal"
  | .digit c of => "invalid digit '" ++ String.singleton c ++ "' in " ++ of.word ++ " literal"
  | .leadingZeros =>
    "leading zeros in decimal integer literals are not permitted; " ++
      "use an 0o prefix for octal integers"
  | .unterminatedText multiline lastLine =>
    "unterminated " ++ (if multiline then "triple-quoted " else "") ++
      "string literal (detected at line " ++ toString lastLine ++ ")"
  | .character c =>
    if isPrintable c then
      "invalid character '" ++ String.singleton c ++ "' (" ++ codePointText c ++ ")"
    else "invalid non-printable character " ++ codePointText c
  | .continuation => "unexpected character after line continuation character"
  | .endOfText => "unexpected EOF while parsing"
  | .nulCharacter => "source code string cannot contain null bytes"
  | .indented => "unexpected indent"
  | .unindented => "unexpected unindent"
  | .unindentedBetween => "unindent does not match any outer indentation level"
  | .mixedIndentation => "inconsistent use of tabs and spaces in indentation"
  | .bytesBesideText => "cannot mix bytes and nonbytes literals"
  | .bytesCharacter => "bytes can only contain ASCII literal characters"
  | .bytesEscape place => "(value error) invalid \\x escape at position " ++ toString place
  | .textEscape fault first last =>
    "(unicode error) 'unicodeescape' codec can't decode bytes in position " ++ toString first ++
      "-" ++ toString last ++ ": " ++ fault.text
  | .field fault => fault.text
  | .within cause => "f-string: " ++ cause.text
  | .deferred construct => "'" ++ construct ++ "' can not be used within an annotation"
  | .yieldWithin comprehension => "'yield' inside " ++ comprehension
  | .namedInClass =>
    "assignment expression within a comprehension cannot be used in a class body"
  | .namedIterated name =>
    "assignment expression cannot rebind comprehension iteration variable '" ++ name ++ "'"
  | .iteratedNamed name =>
    "comprehension inner loop cannot rebind assignment expression target '" ++ name ++ "'"
  | .namedInIterable =>
    "assignment expression cannot be used in a comprehension iterable expression"
  | .repeatedParameter name => "duplicate argument '" ++ name ++ "' in function definition"
  | .boundDebugFlag => "cannot assign to __debug__"
  | .repeatedArgument name => "keyword argument repeated: " ++ name

/-- Faults of indentation are a class of their own. -/
def isIndentation : Cause → Bool
  | .indented | .unindented | .unindentedBetween | .missingBlock _ => true
  | _ => false

/-- Faults within a single token, or with brackets that do not fit together. -/
def isLexical : Cause → Bool
  | .unmatched _ | .mismatched _ _ _ | .tooManyBrackets | .number _ | .digit _ _ | .leadingZeros
  | .unterminatedText _ _ | .character _ => true
  | _ => false

end Cause

/-- A cause and the line to which it is put down. -/
structure Fault where
  cause : Cause
  line : Nat
  deriving Repr, DecidableEq

/-- The place is given behind the cause, unless it is the text as a whole. -/
def Fault.message (f : Fault) : String :=
  f.cause.text ++
    match f.cause with
    | .nulCharacter => ""
    | _ => " (<generated>, line " ++ toString f.line ++ ")"

end RecordBuilders.Target.Code
