import RecordBuilders.Field.Classification

/-! Names that would clash in the generated classes. A builder class holds the storage of every
field, the methods of every field and the build method; a record class holds the fields and the
factory method. -/
namespace RecordBuilders
open Target

inductive NameClash where
  | reservedClass (name : String)
  | reservedField (member : Member)
  | factory (member : Member)
  | reservedMethod (member : Member) (method : String)
  | buildMethod (member : Member) (method : String)
  | storage (member : Member) (method : String) (owner : Member)
  | duplicate (member : Member) (method : String) (owner : String)
  deriving Repr

/-- Methods that fields have claimed so far, each with the name of its field. -/
abbrev Claims := List (String × String)

namespace Config

/-- What keeps a member from claiming a method. The member's own name was checked before. -/
def methodClash? (c : Config) (members : List Member) (claims : Claims) (m : Member)
    (method : String) : Option NameClash :=
  if method ≠ m.name ∧ isUnusable method then some (.reservedMethod m method)
  else if method = c.buildMethod then some (.buildMethod m method)
  else
    match members.find? (·.slot == method) with
    | some owner => some (.storage m method owner)
    | none => (claims.lookup method).map (.duplicate m method)

/-- Claims the methods of a member one after the other. A method that clashes is not claimed. -/
def claimMethods (c : Config) (members : List Member) (m : Member) (claims : Claims) :
    List String → List NameClash × Claims
  | [] => ([], claims)
  | method :: methods =>
    match c.methodClash? members claims m method with
    | some clash =>
      let (clashes, claims) := claimMethods c members m claims methods
      (clash :: clashes, claims)
    | none => claimMethods c members m ((method, m.name) :: claims) methods

/-- A member with a reserved name claims nothing. -/
def memberClashesFrom (c : Config) (members : List Member) (claims : Claims) :
    List Member → List NameClash
  | [] => []
  | m :: rest =>
    if isUnusable m.name then .reservedField m :: memberClashesFrom c members claims rest
    else
      let (clashes, claims) := c.claimMethods members m claims m.methods
      (if m.name = c.factoryName then [.factory m] else []) ++ clashes ++
        memberClashesFrom c members claims rest

def classClashes (c : Config) (record : String) : List NameClash :=
  ([record, c.builderName record].filter isUnusableForClass).map .reservedClass

/-- All clashes in the classes of a record, in the order of its members. -/
def nameClashes (c : Config) (record : String) (members : List Member) : List NameClash :=
  c.classClashes record ++ c.memberClashesFrom members [] members

end Config

namespace NameClash
open Text

def ticked (name : String) : String := "`" ++ name ++ "`"

def message (c : Config) (record : String) : NameClash → String
  | .reservedClass name => ticked name ++ " is a reserved word"
  | .reservedField m => ticked m.name ++ " is a reserved word"
  | .factory m =>
    "field " ++ ticked m.name ++ " collides with " ++ ticked (record ++ "." ++ c.factoryName ++ "()")
  | .reservedMethod _ method => ticked method ++ " is a reserved word"
  | .buildMethod _ method =>
    "builder method " ++ ticked method ++ " collides with " ++
      ticked (c.builderName record ++ "." ++ c.buildMethod ++ "()")
  | .storage _ method owner =>
    "builder method " ++ ticked method ++ " collides with the storage of field " ++ ticked owner.name
  | .duplicate _ method _ => "duplicate builder method " ++ ticked method

/-- The member that is to blame; class names have none. -/
def member? : NameClash → Option Member
  | .reservedClass _ => none
  | .reservedField m | .factory m | .reservedMethod m _ | .buildMethod m _ | .storage m _ _
  | .duplicate m _ _ => some m

def notes : NameClash → List String
  | .duplicate _ _ owner => ["also generated for field " ++ ticked owner]
  | _ => []

/-- A clash of class names is placed at the declaration, every other one at its field. -/
def issue (c : Config) (record : String) (location : Option Position) (clash : NameClash) : Issue where
  category := .naming
  message := clash.message c record
  origin := .ofPosition? (match clash.member? with
    | some m => m.location
    | none => location)
  field := clash.member?.map Member.name
  notes := clash.notes

end NameClash
end RecordBuilders
