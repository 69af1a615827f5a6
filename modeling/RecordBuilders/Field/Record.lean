import RecordBuilders.Field.MemberNames

/-! The members of a record. All problems of a declaration are collected before it is refused. -/
namespace RecordBuilders
open Syntax Text

inductive RecordFault where
  | notAStruct (kind : Kind) (location : Option Position)
  | unnamedField (location : Option Position)
  deriving Repr

def RecordFault.issue : RecordFault → Issue
  | .notAStruct kind location => {
      category := .structural
      message := "expected struct, found " ++ kind.word
      origin := .ofPosition? location }
  | .unnamedField location => unnamedFieldIssue location

namespace Syntax.Declaration

/-- The fields of a struct, if all of them have names. A field without a place of its own is
reported at the declaration. -/
def recordFields (d : Declaration) : Except RecordFault (List Field) :=
  if d.kind = .struct then
    match d.fields.find? (·.usableName?.isNone) with
    | some f => .error (.unnamedField (f.location <|> d.location))
    | none => .ok d.fields
  else .error (.notAStruct d.kind d.location)

end Syntax.Declaration

namespace Config

def fieldOutcome (c : Config) (f : Field) : Except Issue Member :=
  (c.classify f).mapError (·.issue c f)

/-- The fields that can be classified, in the order of the declaration. -/
def classified (c : Config) (fields : List Field) : List Member :=
  fields.filterMap fun f => (c.fieldOutcome f).toOption

def fieldIssues (c : Config) (fields : List Field) : List Issue :=
  fields.filterMap fun f =>
    match c.fieldOutcome f with
    | .ok _ => none
    | .error issue => some issue

def nameIssues (c : Config) (d : Declaration) (members : List Member) : List Issue :=
  (c.nameClashes d.name members).map (·.issue c d.name d.location)

/-- The members of a record, or every problem with its fields and then with their names. -/
def members (c : Config) (d : Declaration) : Except (List Issue) (List Member) :=
  match d.recordFields with
  | .error fault => .error [fault.issue]
  | .ok fields =>
    let members := c.classified fields
    match c.fieldIssues fields ++ c.nameIssues d members with
    | [] => .ok members
    | issues => .error issues

end Config
end RecordBuilders
