import RecordBuilders.Target.Code.Recognizer
import RecordBuilders.Target.Code.Scope

/-! Whether a text is legal code. It is read by the grammar, then for what may be done where, and last
for the names that it binds. Only a text without an earlier fault has a later one. -/
namespace RecordBuilders.Target.Code
open Text

section Bindings

def debugFlag : String := "__debug__"

/-- The debug flag keeps its value. -/
def bindingFault? (t : Token) : Option Fault :=
  if nfkc t.text = debugFlag then some ⟨.boundDebugFlag, t.line⟩ else none

/-- Names of arguments that the outermost call of a line gives. -/
def argumentNames : List Token → List Token
  | before :: name :: sign :: rest =>
    if (before.is "(" || before.is ",") && name.isName && name.depth == 1 && sign.is "=" then
      name :: argumentNames (sign :: rest)
    else argumentNames (name :: sign :: rest)
  | _ => []

def argumentFault? : List Token → Option Fault
  | [] => none
  | t :: ts =>
    bindingFault? t <|>
      (ts.find? fun other => nfkc other.text == nfkc t.text).map
        (fun other => ⟨.repeatedArgument (nfkc other.text), other.line⟩) <|>
      argumentFault? ts

def startsWith (symbols : List String) (ts : List Token) : Bool :=
  ts.head?.any fun t => symbols.any t.is

/-- The first fault in what one line binds: the name of a class or method, a variable, an attribute
or the arguments of the call that is returned. -/
def lineFault? : List Token → Option Fault
  | first :: second :: rest =>
    if first.is "def" || first.is "class" then bindingFault? second
    else if first.is "return" then argumentFault? (argumentNames rest)
    else if second.is ":" || second.is "=" then bindingFault? first
    else if second.is "." && startsWith [":", "="] rest.tail then rest.head?.bind bindingFault?
    else none
  | _ => none

/-- Cuts tokens into lines, with neither layout nor the ends of the lines. -/
def lines (ts : List Token) : List (List Token) :=
  (ts.filter (!·.isLayout)).splitBy fun a _ => a.kind != .lineEnd

end Bindings

/-- The fault, if any, that keeps a text from being legal code. -/
def fault? (text : String) : Option Fault :=
  if text.toList.contains '\x00' then some ⟨.nulCharacter, 1⟩
  else
    let ts := tokens text.toList
    match read ts with
    | .error fault => some fault
    | .ok trees => scopeFault? trees <|> (lines ts).findSome? lineFault?

section Hints

/-- The text is the code of one expression, and stays that on any line that it is put on. Within
brackets, the expression is all that there is to read. -/
def isExpression (text : String) : Bool :=
  let ts := tokens ('(' :: text.toList ++ [')'])
  let expression := (readRule ⟨ts.toArray, false⟩ (fuelPerToken * (ts.length + 1)) .expression 1).run {}
  !text.toList.contains '\n' && !text.toList.contains '\r' &&
    match expression with
    | (.ok (some found), _) => (ts.drop found.next).map Token.text == [")", "", ""]
    | _ => false

end Hints

end RecordBuilders.Target.Code
