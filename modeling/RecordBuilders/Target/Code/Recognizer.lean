import RecordBuilders.Target.Code.Grammar
import RecordBuilders.Target.Code.Lexer
import RecordBuilders.Target.Code.Quotation
import Std.Data.TreeMap

/-! Reading tokens by the grammar. A text that no alternative fits is read a second time, for the
mistakes that have an explanation. -/
namespace RecordBuilders.Target.Code

/-- What was read, and the place behind it. -/
structure Found where
  trees : List Tree
  next : Nat

/-- The answers that rules gave, at each place the latest one first, and how many tokens were looked
at. -/
structure Memory where
  answers : Std.TreeMap Nat (List (Rule × Option Found)) := {}
  seen : Nat := 0

/-- Reading keeps what it remembers even where it breaks off. -/
abbrev Reading := ExceptT Fault (StateM Memory)

/-- What is read, and whether mistakes are looked for. -/
structure Task where
  tokens : Array Token
  isDiagnosis : Bool

/-- Nothing is found where a pattern does not fit; then other alternatives count unless the answer is
final. -/
structure Outcome where
  found : Option Found
  isFinal : Bool := false

namespace Task

/-- Looks at a token. Where reading the text broke off, the fault shows when it is looked at. -/
def look (task : Task) (place : Nat) : Reading Token := do
  modify fun m => { m with seen := max m.seen (place + 1) }
  match task.tokens[place]? with
  | none => throw ⟨.invalid, 0⟩
  | some t =>
    match t.fault? with
    | some fault => throw fault
    | none => return t

def lineAt (task : Task) (place : Nat) : Nat := (task.tokens[place]?.map Token.line).getD 0

/-- The line of the last token that was looked at. -/
def lastLine (task : Task) (m : Memory) : Nat := task.lineAt (m.seen - 1)

def evidence (task : Task) (trees : List Tree) (place : Nat) : Reading Evidence := do
  return ⟨trees, task.lastLine (← get), (task.tokens[place - 1]?.map Token.depth).getD 0⟩

/-- The texts from a place on. What follows them is looked at, too. -/
def textsFrom (task : Task) : Nat → Nat → Reading (List Token)
  | 0, _ => return []
  | n + 1, place => do
    let t ← task.look place
    if t.kind = .text then return t :: (← task.textsFrom n (place + 1)) else return []

end Task

def remember (rule : Rule) (place : Nat) (answer : Option Found) : Reading Unit :=
  modify fun m =>
    { m with answers := m.answers.insert place ((rule, answer) :: m.answers.getD place []) }

def remembered (rule : Rule) (place : Nat) : Reading (Option (Option Found)) := do
  return ((← get).answers.getD place []).lookup rule

def missed : Outcome := ⟨none, false⟩

/-- Reads one token if it passes a test. -/
def single (task : Task) (place : Nat) (passes : Token → Bool) (trees : Token → List Tree) :
    Reading Outcome := do
  let t ← task.look place
  return if passes t then ⟨some ⟨trees t, place + 1⟩, false⟩ else missed

def noTrees (_ : Token) : List Tree := []

/-- The part of a number's text that makes it imaginary. -/
def isImaginary (t : Token) : Bool := t.text.toList.getLast?.any fun c => c == 'j' || c == 'J'

/-- Half of a complex number. -/
def complexPart (task : Task) (place : Nat) (wantsImaginary : Bool) : Reading Outcome := do
  let t ← task.look place
  if t.kind ≠ .number then return missed
  else if isImaginary t = wantsImaginary then return ⟨some ⟨[], place + 1⟩, false⟩
  else throw ⟨if wantsImaginary then .imaginaryNumber else .realNumber, t.line⟩

/-- A fault of the text as a whole may prevail over one that was found while reading. Lexical faults
do, and brackets that were opened on an earlier line. -/
def prevailing (task : Task) (m : Memory) (fault : Fault) : Fault :=
  match task.tokens.back? with
  | some ⟨.broken cause bracket, _, line, _⟩ =>
    if cause.isLexical then ⟨cause, line⟩
    else
      match bracket with
      | some (opening, line) =>
        if line < task.lastLine m then ⟨.unclosed opening, line⟩ else fault
      | none => fault
  | _ => fault

/-- The fault that comes out where reading broke off with one. -/
def broken (task : Task) (m : Memory) (fault : Fault) : Fault :=
  if (task.tokens[m.seen - 1]?.bind Token.fault?).isSome then fault else prevailing task m fault

/-- The fault of a text without an explanation. `first` is what the first reading remembers, which
shows the place, and `second` what the second one does. -/
def unexplained (task : Task) (first second : Memory) : Fault :=
  match task.tokens[first.seen - 1]? with
  | some t =>
    if t.kind = .indent then ⟨.indented, task.lastLine second⟩
    else if t.kind = .dedent then ⟨.unindented, task.lastLine second⟩
    else prevailing task second ⟨.invalid, t.line⟩
  | none => ⟨.invalid, 0⟩

/-- Within a formatted text, all faults but those of single tokens say so. A fault says it once, at
any depth. -/
def Fault.embedded (fault : Fault) : Fault :=
  match fault.cause with
  | .within _ => fault
  | cause => if cause.isLexical then fault else { fault with cause := .within cause }

mutual

def readRule (task : Task) : Nat → Rule → (place : Nat) → Reading (Option Found)
  | 0, _, _ => return none
  | n + 1, rule, place => do
    if rule.isLeftRecursive then
      match ← remembered rule place with
      | some answer => return answer
      | none => grow task n rule place none
    else if rule.isRemembered then
      match ← remembered rule place with
      | some answer => return answer
      | none =>
        let outcome ← readAlternatives task n rule.body place
        remember rule place outcome.found
        return outcome.found
    else
      let task := if rule = .unmistaken then { task with isDiagnosis := false } else task
      return (← readAlternatives task n rule.body place).found
termination_by structural fuel => fuel

/-- Reads a rule that begins with itself as long as more is read each time. -/
def grow (task : Task) : Nat → Rule → (place : Nat) → Option Found → Reading (Option Found)
  | 0, _, _, best => return best
  | n + 1, rule, place, best => do
    remember rule place best
    match (← readAlternatives task n rule.body place).found with
    | none => return best
    | some found =>
      if found.next ≤ (best.map Found.next).getD place then return best
      else grow task n rule place (some found)
termination_by structural fuel => fuel

def readAlternatives (task : Task) : Nat → List (List Pattern) → (place : Nat) → Reading Outcome
  | 0, _, _ => return missed
  | _ + 1, [], _ => return missed
  | n + 1, items :: others, place => do
    let outcome ← readItems task n items [] place
    if outcome.found.isSome then return { outcome with isFinal := false }
    else if outcome.isFinal then return missed
    else readAlternatives task n others place
termination_by structural fuel => fuel

/-- Reads patterns one after the other. `trees` were read before them. -/
def readItems (task : Task) : Nat → List Pattern → (trees : List Tree) → (place : Nat) →
    Reading Outcome
  | 0, _, _, _ => return missed
  | _ + 1, [], trees, place => return ⟨some ⟨trees, place⟩, false⟩
  | n + 1, item :: items, trees, place => do
    let outcome ← readItem task n item trees place
    match outcome.found with
    | none => return outcome
    | some found =>
      let others ← readItems task n items (trees ++ found.trees) found.next
      return { others with isFinal := others.isFinal || outcome.isFinal }
termination_by structural fuel => fuel

def readItem (task : Task) : Nat → Pattern → (trees : List Tree) → (place : Nat) → Reading Outcome
  | 0, _, _, _ => return missed
  | n + 1, item, trees, place =>
    match item with
    | .symbol text => single task place (·.is text) noTrees
    | .located text => single task place (·.is text) fun t => [.node (.symbol text) t.line []]
    | .name => single task place Token.isName fun t => [.node (.name t.text) t.line []]
    | .softKeyword => single task place Token.isSoftKeyword noTrees
    | .number => single task place (·.kind == .number) noTrees
    | .realNumber => complexPart task place false
    | .imaginaryNumber => complexPart task place true
    | .quotation => single task place (·.kind == .text) noTrees
    | .lineEnd => single task place (·.kind == .lineEnd) noTrees
    | .indent => single task place (·.kind == .indent) noTrees
    | .dedent => single task place (·.kind == .dedent) noTrees
    | .finish => single task place (·.kind == .finish) noTrees
    | .quotations => do
      let texts ← task.textsFrom (task.tokens.size + 1) place
      if texts.isEmpty then return missed
      else
        let trees ← readTexts task n none texts
        let form : Form :=
          if texts.any fun t => (Quotation.ofText t.text.toList).isFormatted then .formatted
          else .literal
        return ⟨some ⟨[.node form (task.lineAt place) trees], place + texts.length⟩, false⟩
    | .rule rule => return ⟨← readRule task n rule place, false⟩
    | .mistake rule =>
      if task.isDiagnosis then return ⟨← readRule task n rule place, false⟩ else return missed
    | .oneOf alternatives => readAlternatives task n alternatives place
    | .perhaps items => do
      let found := (← readAlternatives task n [items] place).found
      return ⟨some (found.getD ⟨[], place⟩), false⟩
    | .many items => return ⟨some (← readMany task n items [] place), false⟩
    | .several items => do
      match (← readAlternatives task n [items] place).found with
      | none => return missed
      | some first => return ⟨some (← readMany task n items first.trees first.next), false⟩
    | .separated separator items => do
      match (← readAlternatives task n [items] place).found with
      | none => return missed
      | some first =>
        let others ← readMany task n (.symbol separator :: items) first.trees first.next
        return ⟨some others, false⟩
    | .ahead items => do
      let fits := (← readAlternatives task n [items] place).found.isSome
      return if fits then ⟨some ⟨[], place⟩, false⟩ else missed
    | .notAhead items => do
      let fits := (← readAlternatives task n [items] place).found.isSome
      return if fits then missed else ⟨some ⟨[], place⟩, false⟩
    | .commit => return ⟨some ⟨[], place⟩, true⟩
    | .demanded symbol => do
      let t ← task.look place
      if t.is symbol then return ⟨some ⟨[], place + 1⟩, false⟩
      else throw ⟨.missing symbol, t.line⟩
    | .form form items => do
      let outcome ← readItems task n items [] place
      return { outcome with found := outcome.found.map fun found =>
        ⟨[.node form (task.lineAt place) found.trees], found.next⟩ }
    | .judged judge => do
      match judge (← task.evidence trees place) with
      | some fault => throw fault
      | none => return ⟨none, true⟩
termination_by structural fuel => fuel

/-- Reads patterns as often as they fit. -/
def readMany (task : Task) : Nat → List Pattern → (trees : List Tree) → (place : Nat) → Reading Found
  | 0, _, trees, place => return ⟨trees, place⟩
  | n + 1, items, trees, place => do
    match (← readAlternatives task n [items] place).found with
    | none => return ⟨trees, place⟩
    | some found => readMany task n items (trees ++ found.trees) found.next
termination_by structural fuel => fuel

/-- Reads what texts side by side hold. All or none of them are bytes, like the first one. -/
def readTexts (task : Task) : Nat → (isBytes : Option Bool) → List Token → Reading (List Tree)
  | 0, _, _ => return []
  | _ + 1, _, [] => return []
  | n + 1, isBytes, t :: texts => do
    let q := Quotation.ofText t.text.toList
    let line := task.lastLine (← get)
    if q.isBytes && q.content.any (0x80 ≤ ·.toNat) then throw ⟨.bytesCharacter, t.line⟩
    else if !q.isFormatted && !q.isRaw then
      match if q.isBytes then bytesEscapeFault? 0 q.content else textEscapeFault? q.content with
      | some cause => throw ⟨cause, line⟩
      | none => pure ()
    if (isBytes.getD q.isBytes) != q.isBytes then throw ⟨.bytesBesideText, line⟩
    let trees ← if q.isFormatted then readFragments task n (q.fragments t.line) else pure []
    return trees ++ (← readTexts task n (some q.isBytes) texts)
termination_by structural fuel => fuel

def readFragments (task : Task) : Nat → List Fragment → Reading (List Tree)
  | 0, _ => return []
  | _ + 1, [] => return []
  | n + 1, fragment :: fragments => do
    match fragment with
    | .faulty cause => throw ⟨cause, task.lastLine (← get)⟩
    | .code text line =>
      match readText n .interpolation (tokensFrom line ('(' :: text ++ [')'])).toArray with
      | .error fault => throw fault.embedded
      | .ok trees => return trees ++ (← readFragments task n fragments)
termination_by structural fuel => fuel

/-- Reads a text as a whole, and a second time if that fails. -/
def readText : Nat → Rule → Array Token → Except Fault (List Tree)
  | 0, _, _ => .ok []
  | n + 1, rule, tokens =>
    match (readRule ⟨tokens, false⟩ n rule 0).run {} with
    | (.ok (some found), _) => .ok found.trees
    | (.error fault, m) => .error (broken ⟨tokens, false⟩ m fault)
    | (.ok none, first) =>
      match (readRule ⟨tokens, true⟩ n rule 0).run { seen := first.seen } with
      | (.error fault, m) => .error (broken ⟨tokens, true⟩ m fault)
      | (.ok _, second) => .error (unexplained ⟨tokens, true⟩ first second)
termination_by structural fuel => fuel

end

/-- No rule is read through more patterns and rules before it takes a token. -/
def fuelPerToken : Nat := 1000

/-- The trees of a text, or the fault that keeps it from being legal. -/
def read (tokens : List Token) : Except Fault (List Tree) :=
  readText (fuelPerToken * (tokens.length + 1)) .wholeText tokens.toArray

end RecordBuilders.Target.Code
