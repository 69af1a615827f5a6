import RecordBuilders.Builder.State

/-! Working with the classes of a module: many builders, and the records that they have built. -/
namespace RecordBuilders
open Target

/-- Builders and records are numbered in the order in which they appear. -/
inductive Step where
  | new (record : String)
  | call (builder : Nat) (method : String) (value : Json)
  | build (builder : Nat)
  | record (index : Nat)
  | equal (first second : Nat)
  deriving Repr

inductive Reply where
  | created (className : String) (slots : List (String × Json))
  | called (isReceiver : Bool) (slots : List (String × Json))
  | record (record : BuiltRecord)
  | compared (same : Bool)
  | missing (field : MissingField)
  | failed (fault : UseFault)
  deriving Repr

def BuildFault.reply : BuildFault → Reply
  | .missing field => .missing field
  | .unusable fault => .failed fault

/-- What a factory gave: a builder, or an object of another class if such a class has the
builder's name. -/
inductive Product where
  | builder (builder : Builder)
  | other (className : String)
  deriving Repr

/-- A list that a record holds itself and not a copy of, and that its builder can still append to. -/
structure SharedList where
  record : Nat
  field : String
  builder : Nat
  storage : String
  deriving Repr, DecidableEq

structure Session where
  products : List Product := []
  records : List BuiltRecord := []
  sharedLists : List SharedList := []
  deriving Repr

/-- Names that every module has, by the kinds of their values, and the imported names. -/
def moduleValues : List (String × String) :=
  [("__name__", "str"), ("__doc__", "NoneType"), ("__package__", "NoneType"),
    ("__loader__", "NoneType"), ("__spec__", "NoneType"), ("__dict__", "dict"),
    ("__builtins__", "dict"), ("__annotations__", "dict"), ("annotations", "_Feature"),
    ("_dataclass", "function")] ++
  (["__delattr__", "__eq__", "__ge__", "__getattribute__", "__gt__", "__hash__", "__init__",
    "__le__", "__lt__", "__ne__", "__repr__", "__setattr__", "__str__"].map (·, "method-wrapper")) ++
  (["__dir__", "__format__", "__getstate__", "__init_subclass__", "__new__", "__reduce__",
    "__reduce_ex__", "__sizeof__", "__subclasshook__"].map (·, "builtin_function_or_method"))

/-- Names of a module that stand for classes, by the names that these have themselves. -/
def moduleClasses : List (String × String) :=
  [("__class__", "module"), ("_MissingFieldError", "MissingFieldError")]

namespace LoadedModule

/-- A factory asked of a class that has none. Every class can list those that it inherits from. -/
def inheritedFactory (className factory : String) : Except UseFault Product :=
  if factory = "mro" then .ok (.other "list") else .error (.noClassAttribute className factory)

/-- A factory asked of what is no class of the module. -/
def foreignFactory (name factory : String) : Except UseFault Product :=
  match moduleValues.lookup name, moduleClasses.lookup name with
  | some kind, _ => .error (.noAttribute kind factory)
  | none, some className => inheritedFactory className factory
  | none, none =>
    .error (if name = "Optional" then .absent factory else .noModuleName name)

/-- A factory calls what has the name of its builder class. -/
def produce (m : LoadedModule) (p : ClassPair) : Except BuildFault Product :=
  let name := p.recordName p.builder
  match m.class? name with
  | none => .error (.unusable (.undefinedName name))
  | some (.builder p) => .builder <$> Builder.new m p
  | some (.record p) =>
    match LoadedClass.callFault? 0 (.record p) with
    | some fault => .error (.unusable fault)
    | none => .ok (.other p.recordClass)

/-- Calling an attribute of a builder class as if it were a factory. -/
def misuse (p : ClassPair) : Except UseFault Product :=
  let label := p.methodLabel p.factory
  match p.attribute? p.factory with
  | some .slot => .error (.notCallable "member_descriptor")
  | some (.method (.setter _ _)) =>
    .error (.missingArguments p.builderClass label [receiverName, "value"])
  | some (.method _) => .error (.missingArguments p.builderClass label [receiverName])
  | _ => inheritedFactory p.builderClass p.factory

/-- The factory that the configuration names, called on what a name stands for. -/
def create (m : LoadedModule) (name : String) : Except BuildFault Product :=
  match m.class? name with
  | some (.record p) =>
    if p.recordName p.factory = p.factory then m.produce p
    else .error (.unusable (.noClassAttribute p.recordClass p.factory))
  | some (.builder p) => (misuse p).mapError .unusable
  | none => (foreignFactory name m.factory).mapError .unusable

end LoadedModule

namespace Session

/-- A builder can be used even if its slots cannot be shown. -/
def shown (b : Builder) (reply : List (String × Json) → Reply) : Reply :=
  match b.visibleSlots with
  | .ok slots => reply slots
  | .error fault => .failed fault

def createdReply : Product → Reply
  | .builder b => shown b (.created b.className)
  | .other className => .failed (.noClassAttribute className slotsName)

section Sharing

def sharesStorage (p : ClassPair) (m other : Member) : Bool :=
  match m.role, other.role with
  | .repeatable _ _, _ => false
  | _, .repeatable _ _ => p.storage m == p.storage other
  | _, _ => false

/-- Two members may work on the same attribute. A record gets a copy of the sequence from the one,
but the list itself from the other. -/
def newSharedLists (s : Session) (index : Nat) (p : ClassPair) : List SharedList :=
  (p.members.filter fun m => p.members.any fun other => sharesStorage p m.toMember other.toMember).map
    fun m => ⟨s.records.length, p.recordName m.name, index, p.storage m.toMember⟩

/-- An appended list changes in all records that share it. -/
def extendShared (s : Session) (index : Nat) (storage : String) (value : Json) : Session :=
  let shared := s.sharedLists.filter fun l => l.builder == index && l.storage == storage
  { s with
    records := shared.foldl (fun records l =>
      records.modify l.record (·.update l.field value)) s.records }

/-- A list that its builder no longer holds does not change any more. -/
def releaseShared (s : Session) (index : Nat) (storage : String) : Session :=
  { s with sharedLists := s.sharedLists.filter fun l => l.builder != index || l.storage != storage }

/-- What a successful call does to records. -/
def afterCall (s : Session) (index : Nat) (b : Builder) (name : String) (value : Json) : Session :=
  match b.classes.attribute? name, value with
  | some (.method (.setter .append storage)), _ =>
    s.extendShared index storage ((b.slots.lookup storage).getD .null)
  | some (.method (.setter _ storage)), _ => s.releaseShared index storage
  | some (.inherited .delete), .string storage => s.releaseShared index storage
  | _, _ => s

end Sharing

def step (m : LoadedModule) (s : Session) : Step → Session × Reply
  | .new name =>
    match m.create name with
    | .error fault => (s, fault.reply)
    | .ok product => ({ s with products := s.products ++ [product] }, createdReply product)
  | .call index method value =>
    match s.products[index]? with
    | none => (s, .failed .noSuchIndex)
    | some (.other className) => (s, .failed (.noAttribute className method))
    | some (.builder b) =>
      match b.call m method value with
      | .error fault => (s, .failed fault)
      | .ok answer =>
        let s := { s with products := s.products.set index (.builder answer.builder) }
        (s.afterCall index answer.builder method value,
          shown answer.builder (.called answer.isReceiver))
  | .build index =>
    match s.products[index]? with
    | none => (s, .failed .noSuchIndex)
    | some (.other className) => (s, .failed (.noAttribute className m.buildMethod))
    | some (.builder b) =>
      match b.finish m with
      | .error fault => (s, fault.reply)
      | .ok record =>
        ({ s with
          records := s.records ++ [record]
          sharedLists := s.sharedLists ++ s.newSharedLists index b.classes }, .record record)
  | .record index =>
    match s.records[index]? with
    | none => (s, .failed .noSuchIndex)
    | some record => (s, .record record)
  | .equal first second =>
    match s.records[first]?, s.records[second]? with
    | some a, some b => (s, .compared (a.same b))
    | _, _ => (s, .failed .noSuchIndex)

/-- Takes steps one after the other, and collects the replies. -/
def run (m : LoadedModule) (s : Session) : List Step → Session × List Reply
  | [] => (s, [])
  | next :: steps =>
    let (s, reply) := s.step m next
    let (s, replies) := run m s steps
    (s, reply :: replies)

end Session
end RecordBuilders
