import RecordBuilders.Field.Record
import RecordBuilders.Target.TypeHint

/-! The two classes that are generated for a record, and their source lines. -/
namespace RecordBuilders.Target
open Syntax

/-- A member with the hints of the record field and of the stored value. -/
structure HintedMember extends Member where
  declaredHint : String
  valueHint : String
  deriving Repr

/-- A record class and its builder class. -/
structure ClassPair where
  record : String
  builder : String
  factory : String
  buildMethod : String
  members : List HintedMember
  deriving Repr

/-- All declared types are rendered before the first value type. -/
def hintMembers (map : TypeMap) (members : List Member) : Except HintFault (List HintedMember) := do
  let declared ← members.mapM (hint map ·.declared)
  let values ← members.mapM (hint map ·.valueType)
  return members.zipWith (fun m (d, v) => ⟨m, d, v⟩) (declared.zip values)

def classPair (c : Config) (record : String) (members : List Member) :
    Except HintFault ClassPair := do
  return {
    record
    builder := c.builderName record
    factory := c.factoryName
    buildMethod := c.buildMethod
    members := ← hintMembers c.typeMap members }

/-- A source line behind `depth` tabs. -/
def line (depth : Nat) (text : String) : String := String.ofList (List.replicate depth '\t') ++ text

/-- A tuple of one element needs a comma behind it. -/
def slotTuple (slots : List String) : String :=
  let quoted := slots.map fun slot => "\"" ++ slot ++ "\""
  "(" ++ ", ".intercalate quoted ++ (if slots.length = 1 then "," else "") ++ ")"

namespace HintedMember

def fieldLine (m : HintedMember) : String := line 1 (m.name ++ ": " ++ m.declaredHint)

def sequenceHint (m : HintedMember) : String := "list[" ++ m.valueHint ++ "]"

/-- Sequences start empty, single values unset. -/
def initialLine (m : HintedMember) : String :=
  match m.role with
  | .repeatable _ _ => line 2 ("self." ++ m.slot ++ ": " ++ m.sequenceHint ++ " = []")
  | _ => line 2 ("self." ++ m.slot ++ ": Optional[" ++ m.valueHint ++ "] = None")

def checkLines (m : HintedMember) : List String :=
  if m.isRequired then
    [line 2 ("if self." ++ m.slot ++ " is None:"),
      line 3 ("raise _MissingFieldError(\"" ++ m.name ++ "\")")]
  else []

/-- A record gets a copy of the sequence that its builder goes on using. -/
def argumentLine (m : HintedMember) : String :=
  match m.role with
  | .repeatable _ _ => line 3 (m.name ++ "=list(self." ++ m.slot ++ "),")
  | _ => line 3 (m.name ++ "=self." ++ m.slot ++ ",")

end HintedMember

namespace ClassPair

def recordLines (p : ClassPair) : List String :=
  ["@_dataclass", line 0 ("class " ++ p.record ++ ":")] ++
    p.members.map HintedMember.fieldLine ++
    (if p.members.isEmpty then [] else [""]) ++
    [line 1 "@staticmethod",
      line 1 ("def " ++ p.factory ++ "() -> " ++ p.builder ++ ":"),
      line 2 ("return " ++ p.builder ++ "()")]

def storageLines (p : ClassPair) : List String :=
  ["class " ++ p.builder ++ ":",
    line 1 ("__slots__ = " ++ slotTuple (p.members.map fun m => m.slot)),
    "",
    line 1 "def __init__(self) -> None:"] ++
    (if p.members.isEmpty then [line 2 "pass"] else p.members.map HintedMember.initialLine)

/-- A method that stores its argument and gives the builder back. -/
def methodLines (p : ClassPair) (name parameterHint body : String) : List String :=
  ["",
    line 1 ("def " ++ name ++ "(self, value: " ++ parameterHint ++ ") -> " ++ p.builder ++ ":"),
    line 2 body,
    line 2 "return self"]

def setterLines (p : ClassPair) (m : HintedMember) : List String :=
  match m.role with
  | .repeatable _ method =>
    p.methodLines method m.valueHint ("self." ++ m.slot ++ ".append(value)") ++
      if m.hasBulkSetter then
        p.methodLines m.name m.sequenceHint ("self." ++ m.slot ++ " = list(value)")
      else []
  | _ => p.methodLines m.name m.valueHint ("self." ++ m.slot ++ " = value")

def buildLines (p : ClassPair) : List String :=
  ["", line 1 ("def " ++ p.buildMethod ++ "(self) -> " ++ p.record ++ ":")] ++
    p.members.flatMap HintedMember.checkLines ++
    if p.members.isEmpty then [line 2 ("return " ++ p.record ++ "()")]
    else
      line 2 ("return " ++ p.record ++ "(") :: p.members.map HintedMember.argumentLine ++
        [line 2 ")"]

def lines (p : ClassPair) : List String :=
  p.recordLines ++ ["", ""] ++ p.storageLines ++ p.members.flatMap p.setterLines ++ p.buildLines

def text (p : ClassPair) : String := "\n".intercalate p.lines ++ "\n"

end ClassPair
end RecordBuilders.Target
