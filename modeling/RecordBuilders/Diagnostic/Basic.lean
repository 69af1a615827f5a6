import RecordBuilders.Diagnostic.Span
import RecordBuilders.Json.Basic
import RecordBuilders.Text.Quoted

/-! A diagnostic is one reported problem. Lists of them keep the order in which problems were
found, and are only ever appended to. -/
namespace RecordBuilders
open Text

structure Diagnostic where
  message : String
  code : Option String := none
  phase : Option String := none
  severity : String := "error"
  span : Span := {}
  /-- The record field that the problem concerns, if there is one. -/
  field : Option String := none
  notes : List String := []
  deriving Repr, DecidableEq

namespace Diagnostic

def isError (d : Diagnostic) : Bool := d.severity == "error"

/-- The form for readers: place, severity and message, then a line for each note. -/
def text (d : Diagnostic) : String :=
  "\n".intercalate
    ((d.span.text ++ ": " ++ d.severity ++ ": " ++ d.message) :: d.notes.map ("  note: " ++ ·))

def json (d : Diagnostic) : Json :=
  .object [
    ("phase", .ofText? d.phase),
    ("code", .ofText? d.code),
    ("message", .string d.message),
    ("severity", .string d.severity),
    ("file", .ofText? d.span.file),
    ("line", .ofInteger? d.span.line),
    ("column", .ofInteger? d.span.column),
    ("field", .ofText? d.field),
    ("notes", .array (d.notes.map .string))]

section Debug

def quoted? : Option String → String
  | some s => quoted s
  | none => "None"

def integer? : Option Int → String
  | some n => toString n
  | none => "None"

/-- Every part of a diagnostic, in the notation of a constructor call. -/
def debugText (d : Diagnostic) : String :=
  "Diagnostic(message=" ++ quoted d.message ++ ", code=" ++ quoted? d.code ++ ", phase=" ++
    quoted? d.phase ++ ", severity=" ++ quoted d.severity ++ ", span=Span(file=" ++
    quoted? d.span.file ++ ", line=" ++ integer? d.span.line ++ ", column=" ++
    integer? d.span.column ++ "), field_name=" ++ quoted? d.field ++ ", notes=[" ++
    ", ".intercalate (d.notes.map quoted) ++ "])"

end Debug

end Diagnostic

/-- Problems in the order in which they were found. -/
abbrev Diagnostics := List Diagnostic

namespace Diagnostics

def hasErrors (ds : Diagnostics) : Bool := ds.any Diagnostic.isError

def messages (ds : Diagnostics) : List String := ds.map Diagnostic.message

/-- Several sets one after the other: nothing is dropped, merged or reordered. -/
def combineAll (sets : List Diagnostics) : Diagnostics := sets.flatten

/-- One message stands for itself; of several, or none, the number comes first. -/
def summary (ds : Diagnostics) : String :=
  match ds.messages with
  | [message] => message
  | messages => toString messages.length ++ " errors: " ++ "; ".intercalate messages

def debugText (ds : Diagnostics) : String :=
  "DiagnosticSet([" ++ ", ".intercalate (ds.map Diagnostic.debugText) ++ "])"

end Diagnostics
end RecordBuilders
