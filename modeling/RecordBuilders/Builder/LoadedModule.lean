import RecordBuilders.Builder.ClassLayout
import RecordBuilders.Builder.Fault
import RecordBuilders.Target.Code.Legality
import RecordBuilders.Target.Module

/-! Making the classes of a generated module. The text has to be legal code; then the classes are
made one after the other, each record class before its builder class. -/
namespace RecordBuilders
open Target Text

/-- Names that every class has a value for. A record field of such a name takes the value for its
default. -/
def commonClassNames : List String :=
  ["mro", "__annotations__", "__base__", "__bases__", "__basicsize__", "__call__", "__class__",
    "__delattr__", "__dict__", "__dictoffset__", "__dir__", "__doc__", "__eq__", "__flags__",
    "__format__", "__ge__", "__getattribute__", "__getstate__", "__gt__", "__hash__", "__init__",
    "__init_subclass__", "__instancecheck__", "__itemsize__", "__le__", "__lt__", "__module__",
    "__mro__", "__name__", "__ne__", "__new__", "__or__", "__prepare__", "__qualname__",
    "__reduce__", "__reduce_ex__", "__repr__", "__ror__", "__setattr__", "__sizeof__", "__str__",
    "__subclasscheck__", "__subclasses__", "__subclasshook__", "__text_signature__", "__weakref__",
    "__weakrefoffset__"]

/-- Those of them whose values can change, and so must not be defaults. -/
def mutableClassValues : List (String × String) :=
  [("__annotations__", "dict"), ("__dict__", "mappingproxy")]

namespace Target.ClassPair

def hasDefault (p : ClassPair) (field : String) : Bool :=
  commonClassNames.contains field || field == p.recordName p.factory

/-- The first field without a default behind one that has a default. -/
def misplacedField? (p : ClassPair) : Option String :=
  (p.fieldNames.dropWhile (!p.hasDefault ·)).find? (!p.hasDefault ·)

def recordFault? (p : ClassPair) : Option LoadFault :=
  p.fieldNames.findSome? (fun field =>
      (mutableClassValues.lookup field).map (.mutableDefault · field)) <|>
    p.misplacedField?.map .defaultOrder <|>
    if p.fieldNames.any reservedWords.contains then some .illegalParameter else none

/-- Names that the body of the builder class binds. -/
def bodyNames (p : ClassPair) : List String :=
  ["__module__", slotsName] ++ p.definitions.map Prod.fst

/-- The first slot whose attribute the builder class already defines. -/
def slotConflict? (p : ClassPair) : Option String :=
  p.slotNames.find? fun name => !transientNames.contains name && p.bodyNames.contains name

def builderFault? (p : ClassPair) : Option LoadFault :=
  if (p.method? slotsName).isSome then some .slotsMethod
  else if !p.members.all fun m => isIdentifier m.slot then some .slotIdentifiers
  else
    p.slotConflict?.map .slotConflict <|>
      if (p.method? "__qualname__").isSome then some .qualifiedNameMethod
      else if (p.method? "__classcell__").isSome then some .classCellMethod
      else none

end Target.ClassPair

/-- The pairs of classes of a module, in the order in which they were made, and the names by which
its user calls factories and build methods. -/
structure LoadedModule where
  factory : String
  buildMethod : String
  pairs : List ClassPair
  deriving Repr

inductive LoadedClass where
  | record (pair : ClassPair)
  | builder (pair : ClassPair)
  deriving Repr

namespace LoadedModule

/-- The last class of a name hides the others. -/
def class? (m : LoadedModule) (name : String) : Option LoadedClass :=
  m.pairs.reverse.findSome? fun p =>
    if p.builderClass = name then some (.builder p)
    else if p.recordClass = name then some (.record p)
    else none

def load (c : Config) (pairs : List ClassPair) : Except LoadFault LoadedModule :=
  match Code.fault? (moduleText pairs) with
  | some fault => .error (.code fault)
  | none =>
    match pairs.findSome? fun p => p.recordFault? <|> p.builderFault? with
    | some fault => .error fault
    | none => .ok ⟨c.factoryName, c.buildMethod, pairs⟩

end LoadedModule

/-- What calling a class with the given number of values, but without names, comes to; none if a
record comes out. -/
def LoadedClass.callFault? (values : Nat) : LoadedClass → Option UseFault
  | .builder p =>
    if values = 0 then none else some (.tooManyArguments p.builderClass initializerName 1)
  | .record p =>
    let missing := p.fieldNames.drop values
    if p.fieldNames.length < values then
      some (.tooManyArguments p.recordClass initializerName (p.fieldNames.length + 1))
    else if missing.isEmpty then none
    else some (.missingArguments p.recordClass initializerName missing)

end RecordBuilders
