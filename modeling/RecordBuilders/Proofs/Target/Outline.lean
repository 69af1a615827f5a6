import RecordBuilders.Proofs.Text.Pieces
import RecordBuilders.Target.ClassPair

/-! What a reader finds in the text of a record class and its builder class. The reader goes by the
lines of the text alone and leaves empty ones out, and takes names as they are written. What is not
laid out as it expects has no outline. -/
namespace RecordBuilders.Target
open Text

structure Outline where
  record : String
  /-- Fields of the record with their annotations. -/
  fields : List (String × String)
  builder : String
  /-- The tuple of slots. -/
  slots : List String
  /-- Slots that the initializer assigns, with their values. -/
  initial : List (String × String)
  /-- The methods behind the initializer but for the last one, each with the attributes of the
  receiver that its body refers to. -/
  setters : List (String × List String)
  /-- The last method. -/
  build : String
  /-- Slots that the last method finds unset, with the fields that it reports as missing. -/
  checks : List (String × String)
  /-- Keyword arguments of the new record, with the attributes that their values refer to. -/
  arguments : List (String × List String)
  deriving Repr, DecidableEq

namespace Outline

def className? (l : String) : Option String := do
  let (name, rest) := leadingName (← after? "class " l)
  if rest = ":" then some name else none

/-- A method takes a receiver. -/
def methodName? (l : String) : Option String := do
  let (name, rest) := leadingName (← after? "\tdef " l)
  let _ ← after? "(self" rest
  return name

def field? (l : String) : Option (String × String) := do
  let (name, rest) := leadingName (← after? "\t" l)
  return (name, ← after? ": " rest)

/-- What stands behind the first item of a tuple, cut at the quotes. -/
def moreItems? : List String → Option (List String)
  | [] => none
  | [closing] => if closing = ")" ∨ closing = ",)" then some [] else none
  | separator :: item :: rest =>
    if separator = ", " then (moreItems? rest).map (item :: ·) else none

/-- The items of a tuple of plain strings. One string in parentheses is no tuple. -/
def tupleItems? (s : String) : Option (List String) :=
  match pieces (· == '"') s with
  | [all] => if all = "()" then some [] else none
  | opening :: item :: rest =>
    if opening = "(" ∧ rest ≠ [")"] then (moreItems? rest).map (item :: ·) else none
  | [] => none

/-- The fields of a record class: all that stands in front of its factory method. -/
def fields? (body : List String) : Option (List (String × String)) :=
  let factory := "\t@staticmethod"
  if body.contains factory then (body.takeWhile (· != factory)).mapM field? else none

def slots? : List String → Option (List String)
  | [l] => do tupleItems? (← after? "\t__slots__ = " l)
  | _ => none

/-- An annotated assignment to an attribute of the receiver. -/
def initial? (l : String) : Option (String × String) := do
  let (slot, rest) := leadingName (← after? "\t\tself." l)
  let annotated ← after? ": " rest
  let value ← ["None", "[]"].find? fun value => (" = " ++ value).toList.isSuffixOf annotated.toList
  return (slot, value)

def initials? (ls : List String) : Option (List (String × String)) :=
  if ls = ["\t\tpass"] then some [] else ls.mapM initial?

/-- The attributes of the receiver that code refers to. -/
def references (code : String) : List String := attributesOf "self" (runs code)

def check? (test raised : String) : Option (String × String) := do
  let (slot, rest) := leadingName (← after? "\t\tif self." test)
  let (name, closing) := leadingName (← after? "\t\t\traise _MissingFieldError(\"" raised)
  if rest = " is None:" ∧ closing = "\")" then some (slot, name) else none

/-- The checks in front, and the lines behind them. -/
def leadingChecks : List String → List (String × String) × List String
  | test :: raised :: rest =>
    match check? test raised with
    | some check => (check :: (leadingChecks rest).1, (leadingChecks rest).2)
    | none => ([], test :: raised :: rest)
  | ls => ([], ls)

def argument? (l : String) : Option (String × List String) := do
  let (name, rest) := leadingName (← after? "\t\t\t" l)
  let value ← after? "=" rest
  if [','].isSuffixOf value.toList then some (name, references value) else none

/-- The arguments of a call that makes the record, one on each line. -/
def arguments? (record : String) : List String → Option (List (String × List String))
  | [] => none
  | [call] => if call = "\t\treturn " ++ record ++ "()" then some [] else none
  | opening :: ls =>
    if opening = "\t\treturn " ++ record ++ "(" ∧ ls.getLast? = some "\t\t)" then
      ls.dropLast.mapM argument?
    else none

/-- The methods of a class with their bodies, which stand deeper than their headings. -/
def methods? (ls : List String) : Option (List (String × List String)) :=
  let found := sections methodName? ls
  if found.all fun (_, body) => body.all fun l => (after? "\t\t" l).isSome then some found else none

def ofBodies? (record builder : String) (recordBody builderBody : List String) :
    Option Outline := do
  let fields ← fields? recordBody
  let slots ← slots? (builderBody.takeWhile fun l => (methodName? l).isNone)
  match ← methods? builderBody with
  | [] => none
  | (initializer, initialBody) :: methods =>
    let initial ← initials? initialBody
    let (build, buildBody) ← methods.getLast?
    let arguments ← arguments? record (leadingChecks buildBody).2
    if initializer = "__init__" then
      some {
        record, fields, builder, slots, initial, build, arguments
        setters := methods.dropLast.map fun (name, body) => (name, body.flatMap references)
        checks := (leadingChecks buildBody).1 }
    else none

/-- The outline of a text that holds two classes. -/
def read? (ls : List String) : Option Outline :=
  match sections className? (ls.filter fun l => !l.isEmpty) with
  | [(record, recordBody), (builder, builderBody)] =>
    ofBodies? record builder recordBody builderBody
  | _ => none

/-- What is stored for a member at first. -/
def initialValue (m : Member) : String :=
  match m.role with
  | .repeatable _ _ => "[]"
  | _ => "None"

/-- The outline that is due to the members of a record, whose declared types have these hints. -/
def due (c : Config) (record : String) (members : List Member) (hints : List String) : Outline where
  record
  fields := (members.map Member.name).zip hints
  builder := c.builderName record
  slots := members.map Member.slot
  initial := members.map fun m => (m.slot, initialValue m)
  setters := members.flatMap fun m => m.methods.map fun name => (name, [m.slot])
  build := c.buildMethod
  checks := (members.filter Member.isRequired).map fun m => (m.slot, m.name)
  arguments := members.map fun m => (m.name, [m.slot])

end Outline

end RecordBuilders.Target
