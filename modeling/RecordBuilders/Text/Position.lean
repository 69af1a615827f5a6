/-! Lines and columns of a text. Only a line feed ends a line, and both counts start at one. -/
namespace RecordBuilders.Text

/-- Positions may come from a caller as well as from the lexer, so any integers are allowed. -/
structure Position where
  line : Int := 1
  column : Int := 1
  deriving Repr, DecidableEq, Inhabited

namespace Position

def next (p : Position) (c : Char) : Position :=
  if c = '\n' then ⟨p.line + 1, 1⟩ else ⟨p.line, p.column + 1⟩

/-- Where a text that starts at `p` ends. -/
def advance (p : Position) (text : List Char) : Position :=
  text.foldl next p

@[simp] theorem advance_nil (p : Position) : p.advance [] = p := rfl

@[simp] theorem advance_cons (p : Position) (c : Char) (text : List Char) :
    p.advance (c :: text) = (p.next c).advance text := rfl

theorem advance_append (p : Position) (a b : List Char) :
    p.advance (a ++ b) = (p.advance a).advance b := by
  simp [advance]

end Position
end RecordBuilders.Text
