import RecordBuilders.Text.HiddenTable
import RecordBuilders.Text.Hex

/-! Quoted text as messages show it: one line, every hidden character written as an escape. -/
namespace RecordBuilders.Text

def isPrintable (c : Char) : Bool :=
  if c.toNat < 128 then decide (32 ≤ c.toNat ∧ c.toNat < 127)
  else !hiddenCodePoints.covers c.toNat

namespace Quoted

/-- Double quotes enclose a text only if that spares every single quote in it an escape. -/
def quoteFor (text : List Char) : Char :=
  if text.contains '\'' && !text.contains '"' then '"' else '\''

/-- Three widths of escape cover all code points. -/
def hexEscape (n : Nat) : List Char :=
  if n < 0x100 then '\\' :: 'x' :: hexDigits 2 n
  else if n < 0x10000 then '\\' :: 'u' :: hexDigits 4 n
  else '\\' :: 'U' :: hexDigits 8 n

def escape (quote c : Char) : List Char :=
  if c = quote ∨ c = '\\' then ['\\', c]
  else if c = '\n' then ['\\', 'n']
  else if c = '\r' then ['\\', 'r']
  else if c = '\t' then ['\\', 't']
  else if isPrintable c then [c]
  else hexEscape c.toNat

def encode (text : List Char) : List Char :=
  let quote := quoteFor text
  quote :: (text.flatMap (escape quote) ++ [quote])

end Quoted

/-- The quoted form of `s`. -/
def quoted (s : String) : String := String.ofList (Quoted.encode s.toList)

end RecordBuilders.Text
