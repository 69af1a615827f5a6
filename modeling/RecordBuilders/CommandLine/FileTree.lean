import RecordBuilders.CommandLine.Path
import RecordBuilders.Text.Quoted

/-! The files of the system, from its root down. -/
namespace RecordBuilders

inductive FileFault where
  | notFound
  | notADirectory
  | isADirectory
  | nameTooLong
  deriving Repr, DecidableEq

namespace FileFault

def number : FileFault → Nat
  | .notFound => 2
  | .notADirectory => 20
  | .isADirectory => 21
  | .nameTooLong => 36

def text : FileFault → String
  | .notFound => "No such file or directory"
  | .notADirectory => "Not a directory"
  | .isADirectory => "Is a directory"
  | .nameTooLong => "File name too long"

def message (path : Path) (fault : FileFault) : String :=
  "[Errno " ++ toString fault.number ++ "] " ++ fault.text ++ ": " ++ Text.quoted path.text

end FileFault

/-- The names from the root down. -/
abbrev Location := List String

/-- Paths without a root start at the working directory. -/
structure FileTree where
  files : List (Location × List UInt8)
  directories : List Location
  workingDirectory : Location := []
  deriving Repr

/-- What a path leads to. A file that is not there can be made. -/
inductive Place where
  | directory
  | file (location : Location) (content : List UInt8)
  | free (location : Location)
  deriving Repr

namespace FileTree

/-- Directories are there with everything on the way to them. -/
def isDirectory (t : FileTree) (location : Location) : Bool :=
  location.isEmpty || (t.workingDirectory :: t.directories).any location.isPrefixOf ||
    t.files.any fun (file, _) => location.isPrefixOf file && location.length < file.length

def nameLimit : Nat := 255

def pathLimit : Nat := 4096

/-- Follows names from a directory. Above the root there is the root itself. -/
def walk (t : FileTree) : Location → List String → Except FileFault Place
  | _, [] => .ok .directory
  | directory, name :: names =>
    if name = ".." then t.walk directory.dropLast names
    else if name.utf8ByteSize > nameLimit then .error .nameTooLong
    else
      let next := directory ++ [name]
      match t.files.lookup next with
      | some content => if names.isEmpty then .ok (.file next content) else .error .notADirectory
      | none =>
        if t.isDirectory next then t.walk next names
        else if names.isEmpty then .ok (.free next)
        else .error .notFound

def find (t : FileTree) (path : Path) : Except FileFault Place :=
  if pathLimit ≤ path.text.utf8ByteSize then .error .nameTooLong
  else t.walk (if path.root.isEmpty then t.workingDirectory else []) path.names

def read (t : FileTree) (path : Path) : Except FileFault (List UInt8) := do
  match ← t.find path with
  | .file _ content => return content
  | .directory => throw .isADirectory
  | .free _ => throw .notFound

/-- Gives a file its content, in place of any that it had. -/
def put (t : FileTree) (location : Location) (content : List UInt8) : FileTree :=
  { t with files := (location, content) :: t.files.filter fun (file, _) => file != location }

def write (t : FileTree) (path : Path) (content : List UInt8) : Except FileFault FileTree := do
  match ← t.find path with
  | .file location _ | .free location => return t.put location content
  | .directory => throw .isADirectory

/-- The files that are new or differ from those of an earlier tree. -/
def changedSince (t before : FileTree) : List (Location × List UInt8) :=
  t.files.filter fun (file, content) => before.files.lookup file != some content

end FileTree
end RecordBuilders
