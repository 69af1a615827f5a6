import RecordBuilders.Builder.LoadedModule
import RecordBuilders.Json.Equality

/-! What a builder holds, and what its methods do to it. -/
namespace RecordBuilders
open Target

/-- What a build method returns: every field of the record with its value. -/
structure BuiltRecord where
  record : String
  fields : List (String × Json)
  deriving Repr

def BuiltRecord.same (a b : BuiltRecord) : Bool :=
  a.record == b.record && Json.sameItems (a.fields.map Prod.snd) (b.fields.map Prod.snd)

/-- Gives a field another value. -/
def BuiltRecord.update (r : BuiltRecord) (field : String) (value : Json) : BuiltRecord :=
  { r with fields := r.fields.map fun (name, old) => (name, if name = field then value else old) }

/-- The name by which methods refer to their builder. -/
def receiverName : String := "self"

/-- A builder and the values of those of its slots that have one. -/
structure Builder where
  classes : ClassPair
  slots : List (String × Json)
  deriving Repr

/-- What a name stands for on a builder. -/
inductive Meaning where
  | value (content : Json)
  | method (method : Method)
  | shared (kind : String)
  | inherited (operation : InheritedOperation)
  deriving Repr

namespace Builder

def className (b : Builder) : String := b.classes.builderClass

/-- The value of a slot, or the fault of having none. -/
def slotValue (b : Builder) (name : String) : Except UseFault Json :=
  match b.slots.lookup name with
  | some value => .ok value
  | none => .error (.noAttribute b.className name)

/-- The fault of calling the value of a slot. No value can be called. -/
def slotCallFault (b : Builder) (name : String) : UseFault :=
  match b.slotValue name with
  | .ok value => .notCallable value.kindName
  | .error fault => fault

/-- A slot for the attributes that are not there is asked for each of them. -/
def absentFault (b : Builder) (name : String) : UseFault :=
  if b.classes.hasSlot "__getattr__" then b.slotCallFault "__getattr__"
  else .noAttribute b.className name

/-- What a name stands for, without regard to slots that are asked for names. -/
def plainMeaning? (b : Builder) (name : String) : Option Meaning :=
  match b.classes.attribute? name with
  | some .slot => (b.slots.lookup name).map .value
  | some (.method method) => some (.method method)
  | some (.shared kind) => some (.shared kind)
  | some (.inherited operation) => some (.inherited operation)
  | none => none

/-- A slot for the look-up itself is asked for every name. -/
def meaning (b : Builder) (name : String) : Except UseFault Meaning :=
  if b.classes.hasSlot "__getattribute__" then .error (b.slotCallFault "__getattribute__")
  else
    match b.plainMeaning? name with
    | some meaning => .ok meaning
    | none => .error (b.absentFault name)

/-- The value that an attribute stands for. -/
def read (b : Builder) (name : String) : Except UseFault Json := do
  match ← b.meaning name with
  | .value content => return content
  | _ => throw (.noAttribute b.className name)

def write (b : Builder) (name : String) (value : Json) : Builder :=
  { b with slots := Json.setMember name value b.slots }

/-- Why an attribute cannot be given its initial value. A slot or method for assignments takes part
in each of them; some slots take no such value; a slot for a dictionary makes room for names that
stand for nothing else; all other names are fixed. -/
def assignmentFault? (p : ClassPair) (name : String) (value : Json) : Option UseFault :=
  if p.hasSlot "__setattr__" then some (.noAttribute p.builderClass "__setattr__")
  else if (p.method? "__setattr__").isSome then
    some (.tooManyArguments p.builderClass "__setattr__" 2)
  else if p.hasSlot name then
    if name = "__dict__" then some (.notADictionary value.kindName)
    else if name = "__weakref__" then some (.notWritable p.builderClass name)
    else none
  else if name = "__class__" then some (.notAClass value.kindName)
  else if (p.attribute? name).isSome then some (.readOnly p.builderClass name)
  else if p.hasSlot "__dict__" then none
  else some (.noAttribute p.builderClass name)

/-- A member gets its initial value. -/
def assignInitial (p : ClassPair) (b : Builder) (m : HintedMember) : Except UseFault Builder :=
  match assignmentFault? p (p.storage m.toMember) m.initialValue with
  | some fault => .error fault
  | none => .ok (b.write (p.storage m.toMember) m.initialValue)

/-- The members get their initial values one after the other. -/
def initial (p : ClassPair) : Except UseFault Builder := p.members.foldlM (assignInitial p) ⟨p, []⟩

section Building

/-- The copy of a sequence. A class may hide the function that makes it. -/
def copied (m : LoadedModule) (value : Json) : Except UseFault (List Json) :=
  match (m.class? "list").bind (·.callFault? 1), value.elements? with
  | some fault, _ => .error fault
  | none, some items => .ok items
  | none, none => .error (.notIterable value.kindName)

def missingFault (m : LoadedModule) (field : String) : BuildFault :=
  match (m.class? "_MissingFieldError").bind (·.callFault? 1) with
  | some fault => .unusable fault
  | none => .missing ⟨field⟩

/-- The first required member, in the order of the declaration, whose value is null is missing. -/
def checkMember (m : LoadedModule) (b : Builder) (member : Member) : Except BuildFault Unit := do
  if member.isRequired then
    match ← (b.read (b.classes.storage member)).mapError .unusable with
    | .null => throw (missingFault m member.name)
    | _ => return

/-- What the build method passes on for a member: a copy of a sequence, any other value itself. -/
def argument (m : LoadedModule) (b : Builder) (member : Member) : Except UseFault Json := do
  let value ← b.read (b.classes.storage member)
  match member.role with
  | .repeatable _ _ => return .array (← copied m value)
  | _ => return value

/-- Calling a builder. A slot may stand for that. -/
def receiverCallFault (b : Builder) : UseFault :=
  if b.classes.hasSlot "__call__" then b.slotCallFault "__call__" else .notCallable b.className

/-- A record of the class that has the name now. -/
def construct (record : LoadedClass) (arguments : List (String × Json)) :
    Except UseFault BuiltRecord :=
  match record with
  | .builder p =>
    match arguments with
    | (name, _) :: _ => .error (.unexpectedArgument p.builderClass name)
    | [] => .error (.notCallable p.builderClass)
  | .record p =>
    match arguments.find? fun (name, _) => !p.fieldNames.contains name with
    | some (name, _) => .error (.unexpectedArgument p.recordClass name)
    | none =>
      match p.fieldNames.filter fun field => (arguments.lookup field).isNone with
      | [] =>
        .ok ⟨p.recordClass, p.fieldNames.map fun field => (field, (arguments.lookup field).getD .null)⟩
      | missing => .error (.missingArguments p.recordClass initializerName missing)

def argumentValues (m : LoadedModule) (b : Builder) : Except UseFault (List Json) :=
  b.classes.members.mapM fun member => b.argument m member.toMember

/-- A record class named like the receiver is hidden from its build method, which then calls the
builder instead. -/
def assemble (m : LoadedModule) (b : Builder) : Except UseFault BuiltRecord :=
  let name := b.classes.builderName b.classes.record
  if name = receiverName then do
    let _ ← b.argumentValues m
    throw b.receiverCallFault
  else
    match m.class? name with
    | none => .error (.undefinedName name)
    | some record => do construct record (b.classes.argumentNames.zip (← b.argumentValues m))

/-- The build method. -/
def build (m : LoadedModule) (b : Builder) : Except BuildFault BuiltRecord := do
  b.classes.members.forM fun member => b.checkMember m member.toMember
  (b.assemble m).mapError .unusable

end Building

/-- A new builder. A method that takes the place of the initializer lacks its value, and one that
takes the place of the allocation too; the build method gives something back, which no initializer
may. -/
def new (m : LoadedModule) (p : ClassPair) : Except BuildFault Builder :=
  if p.hasSlot "__new__" then .error (.unusable (.notCallable "member_descriptor"))
  else
    match p.method? "__new__", p.method? initializerName with
    | some (.setter _ _), _ =>
      .error (.unusable (.missingArguments p.builderClass "__new__" ["value"]))
    | _, some (.setter _ _) =>
      .error (.unusable (.missingArguments p.builderClass initializerName ["value"]))
    | _, some .build => do
      let record ← build m ⟨p, []⟩
      throw (.unusable (.initializedTo record.record))
    | _, _ => (initial p).mapError .unusable

/-- The effect of a setter. Only lists can be appended to. -/
def act (m : LoadedModule) (b : Builder) (storage : String) (value : Json) :
    Action → Except UseFault Builder
  | .store => .ok (b.write storage value)
  | .append => do
    match ← b.read storage with
    | .array items => return b.write storage (.array (items ++ [value]))
    | other => throw (.noAttribute other.kindName "append")
  | .replace => do return b.write storage (.array (← copied m value))

section Inherited

/-- Removing the value of a slot. Nothing else can be removed. -/
def delete (b : Builder) (name : String) : Except UseFault Builder :=
  match b.classes.attribute? name with
  | some .slot =>
    if (b.slots.lookup name).isSome then
      .ok { b with slots := b.slots.filter fun (slot, _) => slot != name }
    else .error (.absent name)
  | some (.inherited .construct) => .error .undeletableClass
  | some _ => .error (.readOnly b.className name)
  | none => .error (.noAttribute b.className name)

/-- An object can be taken apart by the protocols from 2 on, and without slots by every one. -/
def reduceFault? (b : Builder) : Json → Option UseFault
  | .bool _ => if b.classes.members.isEmpty then none else some .unpicklable
  | .integer n =>
    if n < -2147483648 ∨ 2147483647 < n then some .tooLarge
    else if 2 ≤ n ∨ b.classes.members.isEmpty = true then none
    else some .unpicklable
  | other => some (.notAnInteger other.kindName)

def formatFault? (b : Builder) : Json → Option UseFault
  | .string text => if text.isEmpty then none else some (.unsupportedFormat b.className)
  | other => some (.notAFormatText other.kindName)

/-- The operations that only look at the builder: none if they give an answer. -/
def inspectionFault? (b : Builder) (name : String) (value : Json) :
    InheritedOperation → Option UseFault
  | .construct => some (.tooManyArguments b.className initializerName 1)
  | .lookUp =>
    match value with
    | .string other =>
      if (b.plainMeaning? other).isSome then none else some (.noAttribute b.className other)
    | other => some (.notANameText other.kindName)
  | .delete => none
  | .assign => some .expectedTwo
  | .withoutArguments => some (.takesNone b.className name)
  | .describe => some .expectedNone
  | .compare =>
    if name = "__ne__" ∧ b.classes.hasSlot "__eq__" = true then some (b.slotCallFault "__eq__")
    else none
  | .format => b.formatFault? value
  | .allocate => some (.notAType value.kindName)
  | .reduce => b.reduceFault? value

def inherit (b : Builder) (name : String) (value : Json) (operation : InheritedOperation) :
    Except UseFault Builder :=
  match operation, value with
  | .delete, .string other => b.delete other
  | .delete, other => .error (.notANameText other.kindName)
  | operation, value =>
    match b.inspectionFault? name value operation with
    | some fault => .error fault
    | none => .ok b

end Inherited

/-- The answer to a call: whether it is the builder, and what the builder holds then. -/
structure CallAnswer where
  isReceiver : Bool
  builder : Builder
  deriving Repr

/-- Calls what a name stands for with one value. Setters answer with their builder. -/
def call (m : LoadedModule) (b : Builder) (name : String) (value : Json) :
    Except UseFault CallAnswer := do
  match ← b.meaning name with
  | .value content => throw (.notCallable content.kindName)
  | .shared kind => throw (.notCallable kind)
  | .method (.setter action storage) => return ⟨true, ← b.act m storage value action⟩
  | .method _ => throw (.tooManyArguments b.className (b.classes.methodLabel name) 1)
  | .inherited operation => return ⟨false, ← b.inherit name value operation⟩

/-- Calls the build method by its configured name, whatever that stands for. -/
def finish (m : LoadedModule) (b : Builder) : Except BuildFault BuiltRecord := do
  match ← (b.meaning b.classes.buildMethod).mapError .unusable with
  | .method .build => b.build m
  | .method _ =>
    let label := b.classes.methodLabel b.classes.buildMethod
    throw (.unusable (.missingArguments b.className label ["value"]))
  | .value content => throw (.unusable (.notCallable content.kindName))
  | .shared kind => throw (.unusable (.notCallable kind))
  | .inherited _ => throw (.unusable (.noAttribute b.className b.classes.buildMethod))

/-- The slots as they look from outside, where private ones cannot be seen. -/
def visibleSlots (b : Builder) : Except UseFault (List (String × Json)) :=
  b.classes.members.mapM fun m => do return (m.slot, ← b.read m.slot)

end Builder
end RecordBuilders
