import RecordBuilders.Diagnostic.Basic
import RecordBuilders.Stack
import RecordBuilders.Syntax.Source
import RecordBuilders.Text.FileText

/-! Declaration files. A syntax error becomes a diagnostic, so that the problems of several files
can be reported together. -/
namespace RecordBuilders.Syntax
open Text

/-- The declarations of a text, if there is room for building each of them. A text that has none is
refused before anything is built. -/
def parseOn (s : Stack) (source : String) :
    Except StackOverflow (Except SyntaxError (List Declaration)) :=
  match parse source with
  | .error e => .ok (.error e)
  | .ok declarations => if declarations.all s.builds then .ok (.ok declarations) else .error {}

section
variable {s : Stack} {source : String} {declarations : List Declaration} {e : SyntaxError}

theorem parseOn_eq_ok_ok_iff : parseOn s source = .ok (.ok declarations) ↔
    parse source = .ok declarations ∧ ∀ d ∈ declarations, s.builds d = true := by
  unfold parseOn
  cases parse source with
  | error e => simp
  | ok all =>
    by_cases hroom : all.all s.builds = true
    · simp_all
    · simp only [hroom, Bool.false_eq_true, if_false, reduceCtorEq, false_iff, not_and]
      rintro ⟨⟩ h
      exact hroom (List.all_eq_true.mpr h)

theorem parseOn_eq_ok_error_iff : parseOn s source = .ok (.error e) ↔ parse source = .error e := by
  unfold parseOn
  cases parse source with
  | error e => simp
  | ok all =>
    simp only [reduceCtorEq, iff_false]
    split <;> simp

theorem parseOn_eq_error_iff {o : StackOverflow} : parseOn s source = .error o ↔
    ∃ declarations, parse source = .ok declarations ∧ ∃ d ∈ declarations, s.builds d = false := by
  unfold parseOn
  cases parse source with
  | error e => simp
  | ok all => cases hroom : all.all s.builds <;> simp_all

end

def SyntaxError.diagnostic (file : String) (e : SyntaxError) : Diagnostic where
  message := e.message
  code := some "E-PARSE"
  phase := some "parser"
  span := ⟨some file, some e.position.line, some e.position.column⟩

/-- What keeps the reader of a file from giving any answer. -/
inductive ReadFault where
  | undecodable (error : Utf8.DecodeError)
  | overflow
  deriving Repr, DecidableEq

/-- The declarations of a file, or the one diagnostic that takes their place. -/
def readSourceFile (s : Stack) (file : String) (content : List UInt8) :
    Except ReadFault (Except Diagnostic (List Declaration)) := do
  let text ← (readFileText content).mapError .undecodable
  let declarations ← (parseOn s (String.ofList text)).mapError fun _ => .overflow
  return declarations.mapError (·.diagnostic file)

end RecordBuilders.Syntax
