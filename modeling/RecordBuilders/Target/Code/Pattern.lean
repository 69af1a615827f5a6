import RecordBuilders.Target.Code.Tree

/-! What a rule of the grammar is made of. Alternatives are tried in their order, and the first one
that fits is taken. -/
namespace RecordBuilders.Target.Code

/-- What parameters belong to. -/
inductive Owner where
  | method
  | lambda
  deriving Repr, DecidableEq

/-- What stands behind the last parameter. -/
def Owner.closing : Owner → String
  | .method => ")"
  | .lambda => ":"

/-- The rules of the grammar. Those whose names end in `Mistake` describe code that is not legal, for
the sake of an explanation. -/
inductive Rule where
  | wholeText | interpolation
  | statements | statement | simpleStatements | simpleStatement | compoundStatement
  | assignment | assignedValue | augmentation | returned | raised | deleted | asserted | imported
  | importedFrom | importTargets | importedName | importedModule | dottedName
  | suite | decorators | classDefinition | plainClass | methodDefinition | plainMethod
  | conditionalStatement | otherwiseIf | otherwise | whileLoop | forLoop
  | managed | managedItem | tried | handler | groupHandler | cleanup
  | matching | subject | matchCase | guarded | patterns | pattern | alternatives | closedPattern
  | literalPattern | literalKey | complexNumber | signedNumber | captureTarget | dottedPattern
  | nameOrDotted | openSequence | patternSequence | sequenceItem | mappingItems | mappingItem
  | restMapping | positionalPatterns | keywordPatterns | keywordPattern
  | expressions | expression | yieldExpression | starExpressions | starExpression
  | starNamedExpressions | starNamedExpression | assignmentExpression | namedExpression
  | disjunction | conjunction | inversion | comparison | comparisonTail | bitOr | bitXor | bitAnd
  | shift | sum | term | factor | power | awaited | primary | slices | slice | atom | group
  | lambdaExpression | parameterList (owner : Owner) | parameters (owner : Owner)
  | positionalOnly (owner : Owner) | positionalOnlyWithDefault (owner : Owner)
  | starParameters (owner : Owner) | keywordRest (owner : Owner)
  | plainParameter (owner : Owner) | starHintedParameter | parameterWithDefault (owner : Owner)
  | anyParameter (owner : Owner) | parameter (owner : Owner) | defaultValue
  | texts | list | tuple | set | dict | entries | entry | pair
  | clauses | clause | listComprehension | setComprehension | generator | dictComprehension
  | arguments | argumentSequence | positionalArgument | keywordArguments | starredArgument
  | keywordOrStarred | keywordOrDoubleStarred
  | targets | targetSequence | tupleTargets | target | starlessTarget | targetAtom
  | singleTarget | memberTarget | targetPrimary | targetTail
  | deletionTargets | deletionTarget | deletionAtom
  | argumentsMistake | keywordMistake | unmistaken | formerStatementMistake | expressionMistake
  | namedExpressionMistake | assignmentMistake | hintedSequenceMistake | deletionMistake
  | suiteMistake | comprehensionMistake | dictComprehensionMistake
  | parametersMistake (owner : Owner) | defaultedMistake (owner : Owner) | defaultMistake
  | starParametersMistake (owner : Owner) | keywordRestMistake (owner : Owner)
  | managedItemMistake | iterationMistake | groupMistake | importTargetsMistake
  | managedMistake | managedSuiteMistake | triedMistake | handlerMistake | cleanupMistake
  | handlerSuiteMistake | groupHandlerSuiteMistake | matchingMistake | matchCaseMistake
  | aliasMistake | classPatternMistake | classArgumentsMistake
  | conditionalMistake | otherwiseIfMistake | otherwiseMistake | whileMistake | forMistake
  | methodMistake | classMistake | entriesMistake | entryMistake
  deriving Repr, DecidableEq

/-- What a mistake is judged by: the trees of what was read, the line of the last token that was
looked at, and the number of brackets that are open now. -/
structure Evidence where
  trees : List Tree
  lastLine : Nat
  depth : Nat

/-- Decides whether what was read is a mistake. -/
abbrev Judge := Evidence → Option Fault

inductive Pattern where
  | symbol (text : String)
  | located (text : String)
  | name
  | softKeyword
  | number
  | realNumber
  | imaginaryNumber
  | quotation
  | quotations
  | lineEnd
  | indent
  | dedent
  | finish
  | rule (rule : Rule)
  | mistake (rule : Rule)
  | oneOf (alternatives : List (List Pattern))
  | perhaps (items : List Pattern)
  | many (items : List Pattern)
  | several (items : List Pattern)
  | separated (separator : String) (items : List Pattern)
  | ahead (items : List Pattern)
  | notAhead (items : List Pattern)
  | commit
  | demanded (symbol : String)
  | form (form : Form) (items : List Pattern)
  | judged (judge : Judge)

instance : Coe String Pattern := ⟨Pattern.symbol⟩

instance : Coe Rule Pattern := ⟨Pattern.rule⟩

namespace Evidence

/-- The line of the part at a place. -/
def lineAt (e : Evidence) (i : Nat) : Nat := (e.trees[i]?.map Tree.line).getD e.lastLine

end Evidence

/-- A mistake that begins with its first part. -/
def mistakeAt (i : Nat) (cause : Cause) : Pattern := .judged fun e => some ⟨cause, e.lineAt i⟩

/-- A mistake that shows where reading has got to. -/
def mistakeHere (cause : Cause) : Pattern := .judged fun e => some ⟨cause, e.lastLine⟩

/-- A mistake that is told by the kind of its part. -/
def mistakenForm (i : Nat) (cause : String → Cause) : Pattern :=
  .judged fun e => e.trees[i]?.map fun t => ⟨cause t.form.text, t.line⟩

/-- The last part cannot be a target. -/
def mistakenTarget (use : TargetUse) (cause : String → Cause) : Pattern :=
  .judged fun e => do
    let misfit ← (← e.trees.getLast?).misfit? use
    return ⟨cause misfit.form.text, misfit.line⟩

/-- A block is missing behind the statement that begins with the first part. -/
def missingBlock (statement : String) : Pattern :=
  .judged fun e => some ⟨.missingBlock (some (statement, e.lineAt 0)), e.lastLine⟩

end RecordBuilders.Target.Code
