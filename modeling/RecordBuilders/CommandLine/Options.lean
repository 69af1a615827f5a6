import RecordBuilders.CommandLine.Path
import RecordBuilders.Text.DigitTable
import RecordBuilders.Text.Quoted

/-! The command line. Options may be abbreviated and short ones joined; two hyphens end them. All
sources have to stand together. -/
namespace RecordBuilders
open Text

inductive Switch where
  | help | output | config | check | json | verbose
  deriving Repr, DecidableEq

namespace Switch

/-- Every spelling of every switch, in the order in which messages list them. -/
def spellings : List (String × Switch) :=
  [("-h", .help), ("--help", .help), ("-o", .output), ("--output", .output),
    ("--config", .config), ("--check", .check), ("--json", .json),
    ("-v", .verbose), ("--verbose", .verbose)]

def takesValue : Switch → Bool
  | .output | .config => true
  | _ => false

/-- All spellings of a switch, as messages name it. -/
def title : Switch → String
  | .help => "-h/--help"
  | .output => "-o/--output"
  | .config => "--config"
  | .check => "--check"
  | .json => "--json"
  | .verbose => "-v/--verbose"

end Switch

/-- The value of a switch. A value that is nothing but the two hyphens that end options is dropped
as if it were them. -/
inductive Supplied where
  | path (path : Path)
  | dropped
  deriving Repr, DecidableEq

def Supplied.path? : Supplied → Option Path
  | .path found => some found
  | .dropped => none

/-- What the command is asked to do. -/
structure Options where
  sources : List Path
  output : Option Supplied := none
  config : Option Supplied := none
  check : Bool := false
  json : Bool := false
  verbosity : Nat := 0
  deriving Repr, DecidableEq

/-- Why no options come out. -/
inductive UsageFault where
  | ambiguous (argument : String) (candidates : List String)
  | ignoredValue (switch : Switch) (value : String)
  | missingValue (switch : Switch)
  | missingSource
  | unrecognized (arguments : List String)
  deriving Repr, DecidableEq

def UsageFault.message : UsageFault → String
  | .ambiguous argument candidates =>
    "ambiguous option: " ++ argument ++ " could match " ++ ", ".intercalate candidates
  | .ignoredValue switch value =>
    "argument " ++ switch.title ++ ": ignored explicit argument " ++ quoted value
  | .missingValue switch => "argument " ++ switch.title ++ ": expected one argument"
  | .missingSource => "the following arguments are required: source"
  | .unrecognized arguments => "unrecognized arguments: " ++ " ".intercalate arguments

/-- What ends the reading of a command line early. -/
inductive Halt where
  | help
  | usage (fault : UsageFault)
  deriving Repr, DecidableEq

namespace Arguments

/-- An argument by itself, before its neighbours are looked at. `isShort` tells whether further
short switches may follow in the same argument. -/
inductive Argument where
  | plain (text : String)
  | separator
  | switch (switch : Switch) (isShort : Bool) (value : Option String)
  | unknown (text : String)
  deriving Repr, DecidableEq

def separatorText : String := "--"

def isDecimalDigit (c : Char) : Bool := c.isDigit || decimalDigits.covers c.toNat

/-- A hyphen and a number in decimal notation, perhaps with a line feed behind it. -/
def isNegativeNumber (text : String) : Bool :=
  match text.toList with
  | '-' :: cs =>
    let number := if cs.getLast? = some '\n' then cs.dropLast else cs
    let fraction := number.dropWhile isDecimalDigit
    match fraction with
    | [] => !number.isEmpty
    | '.' :: digits => !digits.isEmpty && digits.all isDecimalDigit
    | _ => false
  | _ => false

/-- Splits at the first equals sign, if there is one. -/
def splitValue (text : String) : String × Option String :=
  match text.toList.span (· != '=') with
  | (_, []) => (text, none)
  | (name, _ :: value) => (String.ofList name, some (String.ofList value))

def startsWith (text start : String) : Bool := start.toList.isPrefixOf text.toList

/-- Every way to read an argument as a switch that is not spelled out. -/
def candidates (text : String) : List (String × Argument) :=
  if startsWith text "--" then
    let (start, value) := splitValue text
    (Switch.spellings.filter fun (spelling, _) => startsWith spelling start).map
      fun (spelling, switch) => (spelling, .switch switch false value)
  else
    let short := String.ofList (text.toList.take 2)
    let rest := String.ofList (text.toList.drop 2)
    (Switch.spellings.filter fun (spelling, _) => spelling == short).map
      fun (spelling, switch) => (spelling, .switch switch true (some rest))

def isShortSpelling (spelling : String) : Bool := !startsWith spelling "--"

/-- Reads an argument in front of the separator. -/
def classify (text : String) : Except UsageFault Argument :=
  if !startsWith text "-" || text == "-" then .ok (.plain text)
  else
    match Switch.spellings.lookup text with
    | some switch => .ok (.switch switch (isShortSpelling text) none)
    | none =>
      match splitValue text with
      | (spelling, some value) =>
        match Switch.spellings.lookup spelling with
        | some switch => .ok (.switch switch (isShortSpelling spelling) (some value))
        | none => guess text
      | (_, none) => guess text
where
  guess (text : String) : Except UsageFault Argument :=
    match candidates text with
    | [(_, argument)] => .ok argument
    | [] =>
      .ok (if isNegativeNumber text || text.toList.contains ' ' then .plain text else .unknown text)
    | several => .error (.ambiguous text (several.map Prod.fst))

/-- Behind the first separator every argument is plain. -/
def classifyAll : List String → Except UsageFault (List Argument)
  | [] => .ok []
  | text :: texts =>
    if text = separatorText then .ok (.separator :: texts.map .plain)
    else do return (← classify text) :: (← classifyAll texts)

/-- What has been read: switches with their values, the sources once they are complete, the plain
arguments since the last switch, and everything that has no place. -/
structure Progress where
  output : Option Supplied := none
  config : Option Supplied := none
  check : Bool := false
  json : Bool := false
  verbosity : Nat := 0
  sources : Option (List String) := none
  pending : List Argument := []
  extras : List String := []

def Argument.text : Argument → String
  | .plain text | .unknown text => text
  | .separator => separatorText
  | .switch found _ _ => found.title

/-- The first run of plain arguments holds the sources; the separator in it counts for nothing. -/
def Progress.settle (p : Progress) : Progress :=
  let texts := p.pending.map Argument.text
  if p.sources.isNone && p.pending.any (· != .separator) then
    { p with sources := some (texts.erase separatorText), pending := [] }
  else { p with extras := p.extras ++ texts, pending := [] }

/-- The effect of a switch without a value. -/
def Progress.turnOn (p : Progress) : Switch → Except Halt Progress
  | .help => .error .help
  | .check => .ok { p with check := true }
  | .json => .ok { p with json := true }
  | .verbose => .ok { p with verbosity := p.verbosity + 1 }
  | .output | .config => .ok p

def suppliedBy (value : String) : Supplied :=
  if value = separatorText then .dropped else .path (.ofText value)

def Progress.assign (p : Progress) (value : String) : Switch → Progress
  | .output => { p with output := some (suppliedBy value) }
  | .config => { p with config := some (suppliedBy value) }
  | _ => p

/-- The switches in one argument: some without values, and perhaps a last one with its value, or
one that still lacks it. -/
structure Cluster where
  plain : List Switch
  last : Option (Switch × Option String)

/-- Takes a short switch and the letters behind it apart. -/
def shortCluster (switch : Switch) : List Char → Except UsageFault Cluster
  | [] =>
    .ok (if switch.takesValue then ⟨[], some (switch, none)⟩ else ⟨[switch], none⟩)
  | c :: cs =>
    if switch.takesValue then .ok ⟨[], some (switch, some (String.ofList (c :: cs)))⟩
    else
      match Switch.spellings.lookup (String.ofList ['-', c]) with
      | some next => do
        let cluster ← shortCluster next cs
        return { cluster with plain := switch :: cluster.plain }
      | none => .error (.ignoredValue switch (String.ofList (c :: cs)))

def clusterOf (switch : Switch) (isShort : Bool) : Option String → Except UsageFault Cluster
  | none => shortCluster switch []
  | some value =>
    if switch.takesValue then .ok ⟨[], some (switch, some value)⟩
    else if isShort && !value.isEmpty then shortCluster switch value.toList
    else .error (.ignoredValue switch value)

/-- Nothing in an argument takes effect if the argument is at fault. -/
def apply (p : Progress) (cluster : Cluster) (value : Option (Switch × String)) :
    Except Halt Progress := do
  let p ← cluster.plain.foldlM Progress.turnOn p
  match value with
  | none => return p
  | some (switch, value) => return p.assign value switch

def consume (p : Progress) : List Argument → Except Halt Progress
  | [] => .ok p.settle
  | .plain text :: rest => consume { p with pending := p.pending ++ [.plain text] } rest
  | .separator :: rest => consume { p with pending := p.pending ++ [.separator] } rest
  | .unknown text :: rest =>
    let settled := p.settle
    consume { settled with extras := settled.extras ++ [text] } rest
  | .switch switch isShort value :: rest =>
    match clusterOf switch isShort value with
    | .error fault => .error (.usage fault)
    | .ok cluster =>
      match cluster.last with
      | none => do consume (← apply p.settle cluster none) rest
      | some (last, some value) => do consume (← apply p.settle cluster (some (last, value))) rest
      | some (last, none) =>
        match rest with
        | .plain value :: rest => do consume (← apply p.settle cluster (some (last, value))) rest
        | _ => .error (.usage (.missingValue last))

/-- The options of a command line. -/
def read (texts : List String) : Except Halt Options := do
  let arguments ← (classifyAll texts).mapError .usage
  let p ← consume {} arguments
  match p.sources with
  | none => throw (.usage .missingSource)
  | some sources =>
    if p.extras.isEmpty then
      return {
        sources := sources.map .ofText
        output := p.output
        config := p.config
        check := p.check
        json := p.json
        verbosity := p.verbosity }
    else throw (.usage (.unrecognized p.extras))

end Arguments

def usageText : String :=
  "usage: strict-builder [-h] [-o OUTPUT] [--config CONFIG] [--check] [--json]\n" ++
  "                      [-v]\n" ++
  "                      source [source ...]\n"

def helpText : String :=
  usageText ++
  "\n" ++
  "Generate Python builder classes from record declarations\n" ++
  "\n" ++
  "positional arguments:\n" ++
  "  source                Path(s) to declaration source file(s)\n" ++
  "\n" ++
  "options:\n" ++
  "  -h, --help            show this help message and exit\n" ++
  "  -o OUTPUT, --output OUTPUT\n" ++
  "                        Write the generated module here (default: stdout)\n" ++
  "  --config CONFIG       Path to a strict-builder-config JSON file\n" ++
  "  --check               Validate declarations only; do not emit code\n" ++
  "  --json                Emit diagnostics as JSON (phase/code/message/severity/\n" ++
  "                        file/line/column/field/notes)\n" ++
  "  -v, --verbose         Increase log verbosity (repeatable)\n"

end RecordBuilders
