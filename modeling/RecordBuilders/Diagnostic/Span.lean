import RecordBuilders.Text.Position

/-! Where a problem is, as far as that is known. -/
namespace RecordBuilders
open Text

structure Span where
  file : Option String := none
  line : Option Int := none
  column : Option Int := none
  deriving Repr, DecidableEq

/-- What the reporter of a problem knows about its place: nothing, a span, or the marks that some
part of the input carries. -/
inductive Origin where
  | unknown
  | span (span : Span)
  | marks (file : Option String) (line column : Option Int)
  deriving Repr, DecidableEq

def Origin.ofPosition? : Option Position → Origin
  | none => .unknown
  | some p => .marks none (some p.line) (some p.column)

namespace Span

/-- The span of an origin within `file`. A span keeps a file of its own; marks give theirs up for
any file with a name. -/
def ofOrigin (file : Option String) : Origin → Span
  | .unknown => { file }
  | .span s => { s with file := s.file <|> file }
  | .marks own line column => ⟨file.filter (!·.isEmpty) <|> own, line, column⟩

def text (s : Span) : String :=
  s.file.getD "<input>" ++ ":" ++ part s.line ++ ":" ++ part s.column
where
  part : Option Int → String
    | some n => toString n
    | none => "?"

end Span
end RecordBuilders
