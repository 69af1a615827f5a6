import RecordBuilders.CommandLine.FileTree
import RecordBuilders.CommandLine.Log
import RecordBuilders.CommandLine.Options
import RecordBuilders.Config.Document
import RecordBuilders.Json.Writer
import RecordBuilders.Syntax.SourceFile

/-! The command: declaration files in, one module or a list of diagnostics out. -/
namespace RecordBuilders
open Syntax Target Text

/-- What ends the command without an exit code. An operation on a dropped value has no path to work
on. A configuration with half of a surrogate pair in it holds no characters, and what the command
does with it is not followed up; it stands here for that. -/
inductive Escape where
  | file (path : Path) (fault : FileFault)
  | undecodable (error : Utf8.DecodeError)
  | nulInPath
  | noPath (operation : String)
  | overflow
  | surrogate
  deriving Repr, DecidableEq

def nulMessage : String := "embedded null byte"

def Escape.message : Escape → String
  | .file path fault => fault.message path
  | .undecodable error => error.message
  | .nulInPath => nulMessage
  | .noPath operation => "'list' object has no attribute '" ++ operation ++ "'"
  | .overflow => StackOverflow.message
  | .surrogate => Json.Fault.surrogate.text

def Escape.ofReadFault : ReadFault → Escape
  | .undecodable error => .undecodable error
  | .overflow => .overflow

/-- How the command ends and all that it prints. -/
structure Report where
  exit : Except Escape Nat
  out : String := ""
  err : String := ""

/-- How the content of a path is found. -/
abbrev Files := Path → Except FileFault (List UInt8)

namespace Command

def configDiagnostic (path : Path) (message : String) : Diagnostic where
  message := message
  code := some "E-CONFIG"
  phase := some "config"
  span := { file := some path.text }

def fileDiagnostic (path : Path) (fault : FileFault) : Diagnostic where
  message := fault.message path
  code := some "E-IO"
  phase := some "parser"
  span := { file := some path.text }

/-- The text of a file, or the message on why there is none. -/
def textAt (files : Files) (path : Path) : Except String (List Char) := do
  if path.hasNul then throw nulMessage
  let content ← (files path).mapError (·.message path)
  (readFileText content).mapError (·.message)

/-- The configuration of a file. Whatever is wrong with it, it is one diagnostic. -/
def configAt (s : Stack) (files : Files) (path : Path) : Except Escape (Except Diagnostic Config) :=
  match textAt files path with
  | .error message => .ok (.error (configDiagnostic path message))
  | .ok text =>
    if s.decodes text then
      match Config.ofText text with
      | .ok c => .ok (.ok c)
      | .error e =>
        if e.isSurrogate then .error .surrogate
        else .ok (.error (configDiagnostic path e.message))
    else .error .overflow

/-- What the sources have yielded. -/
structure Loaded where
  items : List Item := []
  diagnostics : Diagnostics := []
  log : List LogLine := []

/-- A source that cannot be read or parsed is reported and skipped; one that is no text, or nested too
deep, ends the command. -/
def loadSources (s : Stack) (files : Files) : List Path → Loaded × Option Escape
  | [] => ({}, none)
  | path :: paths =>
    if path.hasNul then ({}, some .nulInPath)
    else
      match files path with
      | .error fault =>
        let (loaded, escape) := loadSources s files paths
        ({ loaded with diagnostics := fileDiagnostic path fault :: loaded.diagnostics }, escape)
      | .ok content =>
        match readSourceFile s path.text content with
        | .error fault => ({}, some (.ofReadFault fault))
        | .ok (.error diagnostic) =>
          let (loaded, escape) := loadSources s files paths
          ({ loaded with diagnostics := diagnostic :: loaded.diagnostics }, escape)
        | .ok (.ok declarations) =>
          let (loaded, escape) := loadSources s files paths
          ({ loaded with
              items := declarations.map (⟨·, some path.text⟩) ++ loaded.items
              log := .parsed declarations.length path.text :: loaded.log }, escape)

/-- The line that programs read. -/
def jsonLine (exit : Nat) (diagnostics : Diagnostics) : String :=
  Json.text (.object [
    ("exit_code", .integer exit),
    ("diagnostics", .array (diagnostics.map Diagnostic.json))]) ++ "\n"

/-- Diagnostics go to the one who asked: as a line for programs, or as text for readers behind the
log. -/
def failure (o : Options) (log : List LogLine) (diagnostics : Diagnostics) : Report :=
  if o.json then ⟨.ok 1, jsonLine 1 diagnostics, logText o.verbosity log⟩
  else
    ⟨.ok 1, "",
      logText o.verbosity log ++ String.join (diagnostics.map fun d => d.text ++ "\n")⟩

def success (o : Options) (log : List LogLine) : Report :=
  ⟨.ok 0, if o.json then jsonLine 0 [] else "", logText o.verbosity log⟩

/-- What is left to do once everything has been read: nothing, or to write a file. `before` is the
report if writing fails to begin with. -/
inductive Plan where
  | done (report : Report)
  | write (path : Path) (text : String) (before after : Report)

/-- The module is written, printed or, for a mere check, dropped. -/
def deliver (o : Options) (log : List LogLine) (count : Nat) (text : String) : Plan :=
  if o.check then .done (success o (log ++ [.checked count]))
  else
    match o.output with
    | none => .done ⟨.ok 0, text, logText o.verbosity log⟩
    | some .dropped => .done ⟨.error (.noPath "write_text"), "", logText o.verbosity log⟩
    | some (.path path) =>
      .write path text ⟨.ok 0, "", logText o.verbosity log⟩
        (success o (log ++ [.wrote path.text]))

/-- The command under a configuration. -/
def planUnder (s : Stack) (c : Config) (files : Files) (o : Options) : Plan :=
  match loadSources s files o.sources with
  | (loaded, some escape) => .done ⟨.error escape, "", logText o.verbosity loaded.log⟩
  | (loaded, none) =>
    if loaded.diagnostics.isEmpty then
      let outcomes := outcomes c loaded.items
      let log := loaded.log ++ derivationLog outcomes
      match generateOn s c loaded.items with
      | .error _ =>
        -- What is logged of the declaration that there was no room for is left out.
        let log := loaded.log ++ derivationLog (outcomes.takeWhile (hasRoom s c))
        .done ⟨.error .overflow, "", logText o.verbosity log⟩
      | .ok (.error (.problems diagnostics)) => .done (failure o log diagnostics)
      | .ok (.error (.unhinted _)) => .done (failure o log [])
      | .ok (.ok text) =>
        deliver o (log ++ [.generated loaded.items.length]) loaded.items.length text
    else .done (failure o loaded.log loaded.diagnostics)

def planFor (s : Stack) (files : Files) (o : Options) : Plan :=
  match o.config with
  | none => planUnder s .default files o
  | some .dropped => .done { exit := .error (.noPath "read_text") }
  | some (.path path) =>
    match configAt s files path with
    | .ok (.ok c) => planUnder s c files o
    | .ok (.error diagnostic) => .done (failure o [] [diagnostic])
    | .error escape => .done { exit := .error escape }

def plan (s : Stack) (files : Files) (arguments : List String) : Plan :=
  match Arguments.read arguments with
  | .error .help => .done ⟨.ok 0, helpText, ""⟩
  | .error (.usage fault) =>
    .done ⟨.ok 2, "", usageText ++ "strict-builder: error: " ++ fault.message ++ "\n"⟩
  | .ok options => planFor s files options

/-- Runs the command on a file tree, on a machine with this stack. -/
def run (s : Stack) (t : FileTree) (arguments : List String) : Report × FileTree :=
  match plan s t.read arguments with
  | .done report => (report, t)
  | .write path text before after =>
    if path.hasNul then ({ before with exit := .error .nulInPath }, t)
    else
      match t.write path text.toUTF8.toList with
      | .ok t => (after, t)
      | .error fault => ({ before with exit := .error (.file path fault) }, t)

end Command
end RecordBuilders
