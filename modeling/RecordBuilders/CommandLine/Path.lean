/-! File paths in the form in which they are shown. -/
namespace RecordBuilders

/-- A root, which is empty for relative paths, and the names below it. Only two leading slashes
make a root of their own. -/
structure Path where
  root : String
  names : List String
  deriving Repr, DecidableEq

namespace Path

/-- Empty names and single dots say nothing; two dots are kept, since a name before them may be a
link. -/
def isTrivial (name : String) : Bool := name == "" || name == "."

def ofText (text : String) : Path :=
  let root := text.toList.takeWhile (· == '/')
  ⟨if root.length = 0 then "" else if root.length = 2 then "//" else "/",
    (splitSlashes (text.toList.dropWhile (· == '/'))).filter (!isTrivial ·)⟩
where
  splitSlashes (cs : List Char) : List String := (cs.splitOn '/').map String.ofList

def text (p : Path) : String :=
  if p.root.isEmpty && p.names.isEmpty then "." else p.root ++ "/".intercalate p.names

def hasNul (p : Path) : Bool := p.names.any (·.toList.contains '\x00')

end Path
end RecordBuilders
