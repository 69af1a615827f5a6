import RecordBuilders.Target.Module

/-! What the command tells about its progress. -/
namespace RecordBuilders
open Target

inductive LogLevel where
  | debug
  | info
  deriving Repr, DecidableEq

structure LogLine where
  level : LogLevel
  source : String
  message : String
  deriving Repr, DecidableEq

namespace LogLine

def text (l : LogLine) : String :=
  (match l.level with
    | .debug => "DEBUG "
    | .info => "INFO ") ++ l.source ++ ": " ++ l.message ++ "\n"

/-- The first step of verbosity shows information, the second one details. -/
def isShown (verbosity : Nat) (l : LogLine) : Bool :=
  match l.level with
  | .debug => decide (1 < verbosity)
  | .info => decide (0 < verbosity)

def parsed (count : Nat) (file : String) : LogLine :=
  ⟨.debug, "strict_builder.parser", "parsed " ++ toString count ++ " declaration(s) from " ++ file⟩

def roleName : Role → String
  | .required => "RequiredField"
  | .optional _ => "OptionalField"
  | .repeatable _ _ => "RepeatableField"

def classified (record : String) (m : Member) : LogLine :=
  ⟨.debug, "strict_builder.derive.fields",
    record ++ "." ++ m.name ++ " classified as " ++ roleName m.role⟩

/-- The lines for a declaration that got its classes. -/
def derived (p : ClassPair) : List LogLine :=
  p.members.map (fun m => classified p.record m.toMember) ++
    [⟨.debug, "strict_builder.derive.emit", "emitted " ++ p.record ++ " and " ++ p.builder⟩]

def generated (count : Nat) : LogLine :=
  ⟨.debug, "strict_builder.derive",
    "generated module with " ++ toString count ++ " declaration(s)"⟩

def checked (count : Nat) : LogLine :=
  ⟨.info, "strict_builder.cli", toString count ++ " declaration(s) OK"⟩

def wrote (file : String) : LogLine := ⟨.info, "strict_builder.cli", "wrote " ++ file⟩

end LogLine

/-- The part of a log that is shown. -/
def logText (verbosity : Nat) (log : List LogLine) : String :=
  String.join ((log.filter (·.isShown verbosity)).map LogLine.text)

/-- Declarations that got their classes are logged even if others are at fault. -/
def derivationLog (outcomes : List (Item × Outcome)) : List LogLine :=
  outcomes.flatMap fun (_, outcome) => (outcome.classes?.map LogLine.derived).getD []

end RecordBuilders
