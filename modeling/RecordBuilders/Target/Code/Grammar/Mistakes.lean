import RecordBuilders.Target.Code.Pattern
import RecordBuilders.Text.Normalization

/-! Mistakes that have an explanation of their own. They are looked for where a text has turned out
not to be legal, and describe what was read up to the place where the mistake is plain. -/
namespace RecordBuilders.Target.Code
open Rule Pattern Text

/-- Words that could once be called without brackets. -/
def formerStatements : List String := ["exec", "print"]

/-- The former statement that a tree names. -/
def Tree.formerStatement? (t : Tree) : Option String :=
  (t.name?.map nfkc).filter formerStatements.contains

def formerStatement : Judge := fun e => do
  let first ← e.trees.head?
  return ⟨.missingCallBrackets (← first.formerStatement?), first.line⟩

/-- Two expressions side by side. Outside of brackets no comma is missing. -/
def missingComma : Judge := fun e => do
  let first ← e.trees.head?
  if first.formerStatement?.isSome || e.depth == 0 then none
  else return ⟨.missingComma, first.line⟩

/-- The arguments of a call that has a generator without brackets for its last one. It needs none
where it is the only one. -/
def bareGenerator : Judge := fun e => do
  let arguments := (← e.trees.head?).parts.filter fun t => t.form != .argument && t.form != .unpacked
  if arguments.length ≤ 1 then none
  else return ⟨.bareGenerator, (← arguments.getLast?).line⟩

/-- A positional argument behind others. Unpacked ones count more. -/
def positionalBehind : Judge := fun e => do
  let isUnpacked := (← e.trees.head?).parts.any (·.form == .unpacked)
  return ⟨.positionalArgument
      (if isUnpacked then "keyword argument unpacking" else "keyword argument"), e.lastLine⟩

/-- The constants that cannot be named by an argument. -/
def constantName : Pattern := oneOf [[located "True"], [located "False"], [located "None"]]

def assignedConstant : Judge := fun e => do
  match ← e.trees.head? with
  | .node (.symbol word) line _ => some ⟨.assignment word, line⟩
  | _ => none

def Rule.argumentMistakes : Rule → List (List Pattern)
  | .argumentsMistake =>
    [[argumentSequence, ",", "*", mistakeAt 0 .unpackedSequence],
      [expression, clauses, ",", perhaps [oneOf [[argumentSequence], [expression, clauses]]],
        mistakeAt 0 .bareGenerator],
      [name, "=", expression, clauses, mistakeAt 0 .equalSign],
      [form .list [argumentSequence], clauses, judged bareGenerator],
      [form .list [argumentSequence], ",", expression, clauses, mistakeAt 1 .bareGenerator],
      [form .list [argumentSequence], ",", argumentSequence, judged positionalBehind]]
  | .keywordMistake =>
    [[constantName, "=", judged assignedConstant],
      [name, "=", expression, clauses, mistakeAt 0 .equalSign],
      [notAhead [name, "="], expression, "=", mistakeAt 0 .argumentAssignment]]
  | .groupMistake =>
    [["(", starredArgument, ")", mistakeAt 0 .starred],
      ["(", located "**", expression, ")", mistakeAt 0 .doubleStarred]]
  | .comprehensionMistake =>
    [[oneOf [["["], ["("], ["\x7b"]], starredArgument, clauses, mistakeAt 0 .unpackedElement],
      [oneOf [["["], ["\x7b"]], starNamedExpression, ",", starNamedExpressions, clauses,
        mistakeAt 0 .bareElements],
      [oneOf [["["], ["\x7b"]], starNamedExpression, ",", clauses, mistakeAt 0 .bareElements]]
  | .dictComprehensionMistake =>
    [["\x7b", located "**", bitOr, clauses, "\x7d", mistakeAt 0 .unpackedEntry]]
  | .entriesMistake =>
    [[separated "," [entry], ",", rule entryMistake],
      [expression, ":", located "*", bitOr, mistakeAt 1 .starredEntryValue],
      [expression, located ":", ahead [oneOf [["\x7d"], [","]]], mistakeAt 1 .missingEntryValue]]
  | .entryMistake =>
    [[expression, notAhead [":"], mistakeAt 0 .missingEntryColon],
      [expression, ":", located "*", bitOr, mistakeAt 1 .starredEntryValue],
      [expression, located ":", ahead [oneOf [["\x7d"], [","]]], mistakeAt 1 .missingEntryValue]]
  | _ => []

def Rule.expressionMistakes : Rule → List (List Pattern)
  | .expressionMistake =>
    [[notAhead [oneOf [[name, quotation], [softKeyword]]], disjunction, unmistaken,
        judged missingComma],
      [disjunction, "if", disjunction, notAhead [oneOf [["else"], [":"]]], mistakeAt 0 .missingElse]]
  | .formerStatementMistake => [[name, notAhead ["("], starExpressions, judged formerStatement]]
  | .namedExpressionMistake =>
    [[expression, ":=", expression, mistakenForm 0 .namedExpression],
      [name, "=", bitOr, notAhead [oneOf [["="], [":="]]], mistakeAt 0 .equalSign],
      [notAhead [oneOf [[list], [tuple], [generator], ["True"], ["None"], ["False"]]], bitOr, "=",
        bitOr, notAhead [oneOf [["="], [":="]]], mistakenForm 0 .comparisonSign]]
  | .assignmentMistake =>
    [[hintedSequenceMistake, ":", expression, mistakenForm 0 .singleTarget],
      [starNamedExpression, ",", many [starNamedExpressions], ":", expression,
        mistakeAt 0 (.singleTarget Form.tuple.text)],
      [expression, ":", expression, mistakeAt 0 .hintedTarget],
      [many [targets, "="], starExpressions, "=", mistakenTarget .assignment .assignment],
      [many [targets, "="], yieldExpression, "=", judged fun e => do
        some ⟨.assignedYield, (← e.trees.getLast?).line⟩],
      [starExpressions, augmentation, oneOf [[yieldExpression], [starExpressions]],
        mistakenForm 0 .augmented]]
  | .hintedSequenceMistake => [[list], [tuple], ["(", hintedSequenceMistake, ")"]]
  | .deletionMistake => [["del", starExpressions, mistakenTarget .deletion .deletion]]
  | .iterationMistake =>
    [[perhaps ["async"], "for", starExpressions, mistakenTarget .iteration .assignment]]
  | .managedItemMistake =>
    [[expression, "as", expression, ahead [oneOf [[","], [")"], [":"]]],
        mistakenTarget .assignment .assignment]]
  | .importTargetsMistake => [[separated "," [importedName], ",", lineEnd, mistakeHere .trailingComma]]
  | _ => []

/-- What parameters belong to, at the start of a message. -/
def Owner.title : Owner → String
  | .method => "Function"
  | .lambda => "Lambda expression"

def Rule.parameterMistakes : Rule → List (List Pattern)
  | .parametersMistake o =>
    let anyPositionalOnly : Pattern := oneOf [[positionalOnly o], [positionalOnlyWithDefault o]]
    [[many [plainParameter o], form .list [defaultedMistake o], plainParameter o,
        judged fun e => do some ⟨.parameterOrder, (← e.trees.getLast?).line⟩],
      [form .list [many [plainParameter o]], located "(",
        match o with
          | .method => several [plainParameter o]
          | .lambda => separated "," [parameter o],
        perhaps [","], ")", mistakeAt 1 (.bracketedParameters o.title)],
      [located "/", ",", mistakeAt 0 .nothingBeforeSlash],
      [form .list [anyPositionalOnly, many [anyParameter o]], located "/", mistakeAt 1 .repeatedSlash],
      [form .list [perhaps [anyPositionalOnly], many [anyParameter o], "*",
          oneOf [[","], [plainParameter o]], many [anyParameter o]],
        located "/", mistakeAt 1 .slashBehindStar],
      [form .list [several [anyParameter o], "/"], located "*", mistakeAt 1 .missingCommaBeforeStar]]
  | .defaultedMistake o => [[positionalOnlyWithDefault o], [several [parameterWithDefault o]]]
  | .defaultMistake =>
    [[located "=", ahead [oneOf [[")"], [","]]], mistakeAt 0 .missingDefault]]
  | .starParametersMistake o =>
    [[located "*", oneOf [[symbol o.closing], [",", oneOf [[symbol o.closing], ["**"]]]],
        match o with
          | .method => mistakeAt 0 .bareStar
          | .lambda => mistakeHere .bareStar],
      ["*", parameter o, located "=", mistakeAt 1 (.defaultOfRest "var-positional")],
      [form .list ["*", oneOf [[plainParameter o], [","]], many [anyParameter o]], located "*",
        oneOf [[plainParameter o], [","]], mistakeAt 1 .repeatedStar]]
  | .keywordRestMistake o =>
    [["**", parameter o, located "=", mistakeAt 1 (.defaultOfRest "var-keyword")],
      ["**", parameter o, ",", parameter o, mistakeAt 1 .behindRest],
      ["**", parameter o, ",", oneOf [[located "*"], [located "**"], [located "/"]],
        mistakeAt 1 .behindRest]]
  | _ => []

/-- A colon is missing at the end of a line. -/
def missingColon : Pattern := mistakeHere (.missing ":")

/-- The head of a statement without a block behind it. -/
def blockMistake (statement : String) (head : List Pattern) : List Pattern :=
  head ++ [symbol ":", lineEnd, notAhead [indent], missingBlock statement]

/-- The end of the line in place of the colon, or no block. -/
def headMistakes (statement : String) (head : List Pattern) : List (List Pattern) :=
  [head ++ [lineEnd, missingColon], blockMistake statement head]

def managedHead : List Pattern :=
  [perhaps ["async"], located "with", separated "," [expression, perhaps ["as", target]]]

def bracketedHead : List Pattern :=
  [perhaps ["async"], located "with", "(", separated "," [expressions, perhaps ["as", target]],
    perhaps [","], ")"]

def Rule.statementMistakes : Rule → List (List Pattern)
  | .suiteMistake => [[lineEnd, notAhead [indent], mistakeHere (.missingBlock none)]]
  | .conditionalMistake => headMistakes "'if' statement" [located "if", namedExpression]
  | .otherwiseIfMistake => headMistakes "'elif' statement" [located "elif", namedExpression]
  | .otherwiseMistake => [blockMistake "'else' statement" [located "else"]]
  | .whileMistake => headMistakes "'while' statement" [located "while", namedExpression]
  | .forMistake =>
    headMistakes "'for' statement"
      [perhaps ["async"], located "for", targets, "in", starExpressions]
  | .methodMistake =>
    [blockMistake "function definition"
      [perhaps ["async"], located "def", name, "(", perhaps [parameterList .method], ")",
        perhaps ["->", expression]]]
  | .classMistake =>
    headMistakes "class definition" [located "class", name, perhaps ["(", perhaps [arguments], ")"]]
  | .managedMistake => [managedHead ++ [lineEnd, missingColon], bracketedHead ++ [lineEnd, missingColon]]
  | .managedSuiteMistake =>
    [blockMistake "'with' statement" managedHead, blockMistake "'with' statement" bracketedHead]
  | .triedMistake =>
    [blockMistake "'try' statement" [located "try"],
      ["try", ":", suite, notAhead [oneOf [["except"], ["finally"]]], mistakeHere .missingHandler],
      [form .list ["try", ":", many [suite], several [handler]], located "except", "*", expression,
        perhaps ["as", name], ":", mistakeAt 1 .mixedHandlers],
      [form .list ["try", ":", many [suite], several [groupHandler]], located "except",
        perhaps [expression, perhaps ["as", name]], ":", mistakeAt 1 .mixedHandlers]]
  | .handlerMistake =>
    [["except", perhaps ["*"], expression, ",", expressions, perhaps ["as", name], ":",
        mistakeAt 0 .severalExceptions],
      ["except", perhaps ["*"], expression, perhaps ["as", name], lineEnd, missingColon],
      ["except", lineEnd, missingColon],
      ["except", "*", oneOf [[lineEnd], [":"]], mistakeHere .noException]]
  | .cleanupMistake => [blockMistake "'finally' statement" [located "finally"]]
  | .handlerSuiteMistake =>
    [blockMistake "'except' statement" [located "except", expression, perhaps ["as", name]],
      blockMistake "'except' statement" [located "except"]]
  | .groupHandlerSuiteMistake =>
    [blockMistake "'except*' statement" [located "except", "*", expression, perhaps ["as", name]]]
  | .matchingMistake => headMistakes "'match' statement" [located "match", subject]
  | .matchCaseMistake =>
    headMistakes "'case' statement" [located "case", patterns, perhaps [guarded]]
  | .aliasMistake =>
    [[form .list [alternatives], "as", located "_", mistakeAt 1 .underscoreTarget],
      [form .list [alternatives], "as", notAhead [name], expression, mistakeAt 1 .patternTarget]]
  | .classPatternMistake =>
    [[form .list [nameOrDotted], "(", classArgumentsMistake, mistakeAt 2 .positionalPattern]]
  | .classArgumentsMistake =>
    [[form .list [perhaps [positionalPatterns, ","], keywordPatterns, ","], positionalPatterns]]
  | _ => []

end RecordBuilders.Target.Code
