/-! Line ends in texts that come from files and in messages of one line. -/
namespace RecordBuilders.Text

/-- Files may end lines with a carriage return, alone or before a line feed. -/
def unifyLineEnds : List Char → List Char
  | '\r' :: '\n' :: rest => '\n' :: unifyLineEnds rest
  | '\r' :: rest => '\n' :: unifyLineEnds rest
  | c :: rest => c :: unifyLineEnds rest
  | [] => []

/-- Every character that some reader takes for the end of a line. -/
def isLineBreak (c : Char) : Bool :=
  ['\n', '\x0b', '\x0c', '\r', '\x1c', '\x1d', '\x1e', '\u0085', '\u2028', '\u2029'].contains c

def firstLine (s : String) : String :=
  String.ofList (s.toList.takeWhile (!isLineBreak ·))

end RecordBuilders.Text
