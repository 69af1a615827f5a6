import RecordBuilders.Builder.Action
import RecordBuilders.Target.ClassPair

/-! What the names in a record class and its builder class stand for once the classes exist. -/
namespace RecordBuilders
open Target

/-- The methods of a builder class. `storage` is the attribute that a setter works on. -/
inductive Method where
  | initializer
  | setter (action : Action) (storage : String)
  | build
  deriving Repr, DecidableEq

/-- Operations that every object has, by what a call with one value comes to. -/
inductive InheritedOperation where
  | construct
  | lookUp
  | delete
  | assign
  | withoutArguments
  | describe
  | compare
  | format
  | allocate
  | reduce
  deriving Repr, DecidableEq

def inheritedOperations : List (String × InheritedOperation) :=
  [("__class__", .construct), ("__getattribute__", .lookUp), ("__delattr__", .delete),
    ("__setattr__", .assign), ("__dir__", .withoutArguments), ("__getstate__", .withoutArguments),
    ("__init_subclass__", .withoutArguments), ("__reduce__", .withoutArguments),
    ("__sizeof__", .withoutArguments), ("__hash__", .describe), ("__repr__", .describe),
    ("__str__", .describe), ("__eq__", .compare), ("__ge__", .compare), ("__gt__", .compare),
    ("__le__", .compare), ("__lt__", .compare), ("__ne__", .compare),
    ("__subclasshook__", .compare), ("__format__", .format), ("__new__", .allocate),
    ("__reduce_ex__", .reduce)]

/-- What a name stands for on a class: a slot for a value of each object, a method, a value of some
kind that all objects share, or an operation that every object has. -/
inductive ClassAttribute where
  | slot
  | method (method : Method)
  | shared (kind : String)
  | inherited (operation : InheritedOperation)
  deriving Repr, DecidableEq

def initializerName : String := "__init__"

def slotsName : String := "__slots__"

/-- Values that a builder class has beside its methods, by their kinds. -/
def sharedValues : List (String × String) :=
  [("__module__", "str"), (slotsName, "tuple"), ("__doc__", "NoneType")]

/-- Names in the body of a class that are no names on the class. -/
def transientNames : List String := ["__qualname__", "__classcell__"]

namespace Target.ClassPair

def recordClass (p : ClassPair) : String := canonical p.record

def builderClass (p : ClassPair) : String := canonical p.builder

/-- What an identifier in the body of the record class stands for. -/
def recordName (p : ClassPair) (name : String) : String := mangled p.recordClass (canonical name)

/-- What an identifier in the body of the builder class stands for. -/
def builderName (p : ClassPair) (name : String) : String := mangled p.builderClass (canonical name)

/-- The attribute on which the methods of a member work. -/
def storage (p : ClassPair) (m : Member) : String := p.builderName m.slot

/-- The slots of a builder. They are given as texts, which are not normalized. -/
def slotNames (p : ClassPair) : List String :=
  p.members.map fun m => mangled p.builderClass m.slot

def hasSlot (p : ClassPair) (name : String) : Bool := p.slotNames.contains name

/-- The methods of the builder class in the order of their definition. Setters have the parameters that
they are written with if the hint behind them is one expression; any other hint may add to them. -/
def definitions (p : ClassPair) : List (String × Method) :=
  (initializerName, .initializer) ::
    p.members.flatMap (fun m =>
      m.actions.map fun (name, action) =>
        (p.builderName name, .setter action (p.storage m.toMember))) ++
    [(p.builderName p.buildMethod, .build)]

/-- The last definition of a name counts. -/
def method? (p : ClassPair) (name : String) : Option Method := p.definitions.reverse.lookup name

def defines (p : ClassPair) (name : String) : Bool := p.hasSlot name || (p.method? name).isSome

/-- A class with an equality of its own is not hashable. -/
def sharedKind? (p : ClassPair) (name : String) : Option String :=
  if name = "__hash__" ∧ p.defines "__eq__" = true then some "NoneType"
  else sharedValues.lookup name

def attribute? (p : ClassPair) (name : String) : Option ClassAttribute :=
  if p.hasSlot name then some .slot
  else
    (p.method? name).map .method <|>
      (p.sharedKind? name).map .shared <|>
      (inheritedOperations.lookup name).map .inherited

/-- The name that a method was defined by, as messages show it. -/
def methodLabel (p : ClassPair) (name : String) : String :=
  if name = p.builderName p.buildMethod then canonical p.buildMethod
  else
    ((p.members.flatMap fun m => m.methods).find? (p.builderName · == name)).elim name canonical

/-- The fields of the record class. -/
def fieldNames (p : ClassPair) : List String := p.members.map fun m => p.recordName m.name

/-- The names by which the build method passes the fields on. -/
def argumentNames (p : ClassPair) : List String := p.members.map fun m => canonical m.name

end Target.ClassPair
end RecordBuilders
