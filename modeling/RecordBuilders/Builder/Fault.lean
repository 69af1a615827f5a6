import RecordBuilders.Target.Code.Fault

/-! What can go wrong with the classes of a module and with their objects, and how it is put. -/
namespace RecordBuilders
open Target Text

/-- Something that cannot be done with a class, a builder or a module. -/
inductive UseFault where
  | noAttribute (className name : String)
  | noClassAttribute (className name : String)
  | noModuleName (name : String)
  | absent (name : String)
  | readOnly (className name : String)
  | notWritable (className name : String)
  | undefinedName (name : String)
  | notIterable (kind : String)
  | notCallable (kind : String)
  | notADictionary (kind : String)
  | notAClass (kind : String)
  | notAType (kind : String)
  | notAnInteger (kind : String)
  | notANameText (kind : String)
  | notAFormatText (kind : String)
  | unsupportedFormat (className : String)
  | undeletableClass
  | unpicklable
  | tooLarge
  | tooManyArguments (className method : String) (allowed : Nat)
  | missingArguments (className method : String) (names : List String)
  | unexpectedArgument (className name : String)
  | takesNone (className method : String)
  | expectedNone
  | expectedTwo
  | initializedTo (className : String)
  | noSuchIndex
  deriving Repr, DecidableEq

/-- Names in a row, the last of which is set apart. -/
def nameRow (names : List String) : String :=
  match names.map quoted with
  | [] => ""
  | [name] => name
  | [first, second] => first ++ " and " ++ second
  | names => ", ".intercalate names.dropLast ++ ", and " ++ names.getLast?.getD ""

def plural (n : Nat) : String := if n = 1 then "" else "s"

namespace UseFault

def message : UseFault → String
  | .noAttribute className name => "'" ++ className ++ "' object has no attribute '" ++ name ++ "'"
  | .noClassAttribute className name =>
    "type object '" ++ className ++ "' has no attribute '" ++ name ++ "'"
  | .noModuleName name => "module '_generated' has no attribute '" ++ name ++ "'"
  | .absent name => name
  | .readOnly className name => "'" ++ className ++ "' object attribute '" ++ name ++ "' is read-only"
  | .notWritable className name =>
    "attribute '" ++ name ++ "' of '" ++ className ++ "' objects is not writable"
  | .undefinedName name => "name '" ++ name ++ "' is not defined"
  | .notIterable kind => "'" ++ kind ++ "' object is not iterable"
  | .notCallable kind => "'" ++ kind ++ "' object is not callable"
  | .notADictionary kind => "__dict__ must be set to a dictionary, not a '" ++ kind ++ "'"
  | .notAClass kind => "__class__ must be set to a class, not '" ++ kind ++ "' object"
  | .notAType kind => "object.__new__(X): X is not a type object (" ++ kind ++ ")"
  | .notAnInteger kind => "'" ++ kind ++ "' object cannot be interpreted as an integer"
  | .notANameText kind => "attribute name must be string, not '" ++ kind ++ "'"
  | .notAFormatText kind =>
    "__format__() argument must be str, not " ++ if kind = "NoneType" then "None" else kind
  | .unsupportedFormat className =>
    "unsupported format string passed to " ++ className ++ ".__format__"
  | .undeletableClass => "can't delete __class__ attribute"
  | .unpicklable =>
    "a class that defines __slots__ without defining __getstate__ cannot be pickled"
  | .tooLarge => "Python int too large to convert to C int"
  | .tooManyArguments className method allowed =>
    className ++ "." ++ method ++ "() takes " ++ toString allowed ++ " positional argument" ++
      plural allowed ++ " but " ++ toString (allowed + 1) ++
      (if allowed = 0 then " was given" else " were given")
  | .missingArguments className method names =>
    className ++ "." ++ method ++ "() missing " ++ toString names.length ++
      " required positional argument" ++ plural names.length ++ ": " ++ nameRow names
  | .unexpectedArgument className name =>
    className ++ ".__init__() got an unexpected keyword argument '" ++ name ++ "'"
  | .takesNone className method => className ++ "." ++ method ++ "() takes no arguments (1 given)"
  | .expectedNone => "expected 0 arguments, got 1"
  | .expectedTwo => " expected 2 arguments, got 1"
  | .initializedTo className => "__init__() should return None, not '" ++ className ++ "'"
  | .noSuchIndex => "list index out of range"

end UseFault

structure MissingField where
  field : String
  deriving Repr, DecidableEq

def MissingField.message (m : MissingField) : String := "missing required field: " ++ m.field

inductive BuildFault where
  | missing (field : MissingField)
  | unusable (fault : UseFault)
  deriving Repr, DecidableEq

/-- Why the classes of a module cannot be made. -/
inductive LoadFault where
  | code (fault : Code.Fault)
  | defaultOrder (field : String)
  | mutableDefault (kind field : String)
  | illegalParameter
  | slotIdentifiers
  | slotConflict (name : String)
  | slotsMethod
  | qualifiedNameMethod
  | classCellMethod
  deriving Repr, DecidableEq

def LoadFault.message : LoadFault → String
  | .code fault => fault.message
  | .defaultOrder field => "non-default argument " ++ quoted field ++ " follows default argument"
  | .mutableDefault kind field =>
    "mutable default <class '" ++ kind ++ "'> for field " ++ field ++
      " is not allowed: use default_factory"
  | .illegalParameter => "invalid syntax (<string>, line 2)"
  | .slotIdentifiers => "__slots__ must be identifiers"
  | .slotConflict name => quoted name ++ " in __slots__ conflicts with class variable"
  | .slotsMethod => "'function' object is not iterable"
  | .qualifiedNameMethod => "type __qualname__ must be a str, not function"
  | .classCellMethod => "__classcell__ must be a nonlocal cell, not <class 'function'>"

end RecordBuilders
