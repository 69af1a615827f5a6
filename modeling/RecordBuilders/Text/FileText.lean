import RecordBuilders.Text.Lines
import RecordBuilders.Text.Utf8

/-! Texts from files: strict UTF-8, with every line ended by a line feed alone. -/
namespace RecordBuilders.Text

def readFileText (content : List UInt8) : Except Utf8.DecodeError (List Char) :=
  unifyLineEnds <$> Utf8.decode content

end RecordBuilders.Text
