import RecordBuilders.Target.Code.Pattern

/-! The grammar of statements. -/
namespace RecordBuilders.Target.Code
open Rule Pattern

def augmentedOperators : List String :=
  ["+=", "-=", "*=", "@=", "/=", "%=", "&=", "|=", "^=", "<<=", ">>=", "**=", "//="]

/-- A word that begins a statement decides which one it is. -/
def led (words : List String) (rule : Rule) : List Pattern :=
  [ahead [oneOf (words.map ([symbol ·]))], rule]

/-- Alternatives that an `async` may stand before. -/
def perhapsAsync (items : List Pattern) : List (List Pattern) := [items, "async" :: items]

def Rule.simpleStatementForms : Rule → List (List Pattern)
  | .wholeText => [[perhaps [statements], finish]]
  | .interpolation => [[starExpressions]]
  | .statements => [[several [statement]]]
  | .statement => [[compoundStatement], [simpleStatements]]
  | .simpleStatements =>
    [[simpleStatement, notAhead [";"], lineEnd],
      [separated ";" [simpleStatement], perhaps [";"], lineEnd]]
  | .simpleStatement =>
    [[assignment], [starExpressions], led ["return"] returned, led ["import", "from"] imported,
      led ["raise"] raised, ["pass"], led ["del"] deleted, led ["yield"] yieldExpression,
      led ["assert"] asserted, ["break"], ["continue"],
      [ahead ["global"], "global", separated "," [name]],
      [ahead ["nonlocal"], "nonlocal", separated "," [name]]]
  | .assignment =>
    [[name, ":", form .hint [expression], perhaps ["=", assignedValue]],
      [oneOf [["(", singleTarget, ")"], [memberTarget]], ":", form .hint [expression],
        perhaps ["=", assignedValue]],
      [several [targets, "="], oneOf [[yieldExpression], [starExpressions]], notAhead ["="]],
      [singleTarget, augmentation, commit, oneOf [[yieldExpression], [starExpressions]]],
      [mistake assignmentMistake]]
  | .assignedValue => [[yieldExpression], [starExpressions]]
  | .augmentation => augmentedOperators.map ([symbol ·])
  | .returned => [["return", perhaps [starExpressions]]]
  | .raised => [["raise", expression, perhaps ["from", expression]], ["raise"]]
  | .deleted =>
    [["del", deletionTargets, ahead [oneOf [[";"], [lineEnd]]]], [mistake deletionMistake]]
  | .asserted => [["assert", expression, perhaps [",", expression]]]
  | .imported => [["import", separated "," [importedModule]], [importedFrom]]
  | .importedFrom =>
    [["from", many [oneOf [["."], ["..."]]], dottedName, "import", importTargets],
      ["from", several [oneOf [["."], ["..."]]], "import", importTargets]]
  | .importTargets =>
    [["(", separated "," [importedName], perhaps [","], ")"],
      [separated "," [importedName], notAhead [","]], ["*"], [mistake importTargetsMistake]]
  | .importedName => [[name, perhaps ["as", name]]]
  | .importedModule => [[dottedName, perhaps ["as", name]]]
  | .dottedName => [[name, many [".", name]]]
  | _ => []

def Rule.compoundStatementForms : Rule → List (List Pattern)
  | .compoundStatement =>
    [led ["def", "@", "async"] methodDefinition, led ["if"] conditionalStatement,
      led ["class", "@"] classDefinition, led ["with", "async"] managed, led ["for", "async"] forLoop,
      led ["try"] tried, led ["while"] whileLoop, [matching]]
  | .suite => [[lineEnd, indent, statements, dedent], [simpleStatements], [mistake suiteMistake]]
  | .decorators => [[several ["@", namedExpression, lineEnd]]]
  | .classDefinition => [[decorators, plainClass], [plainClass]]
  | .plainClass =>
    [[mistake classMistake],
      ["class", name, perhaps ["(", perhaps [arguments], ")"], ":", form .block [suite]]]
  | .methodDefinition => [[decorators, plainMethod], [plainMethod]]
  | .plainMethod =>
    [mistake methodMistake] ::
      perhapsAsync ["def", name, form .method [demanded "(", perhaps [parameterList .method], ")",
        perhaps ["->", form .hint [expression]], demanded ":", form .body [suite]]]
  | .conditionalStatement =>
    [[mistake conditionalMistake], ["if", namedExpression, ":", suite, otherwiseIf],
      ["if", namedExpression, ":", suite, perhaps [otherwise]]]
  | .otherwiseIf =>
    [[mistake otherwiseIfMistake], ["elif", namedExpression, ":", suite, otherwiseIf],
      ["elif", namedExpression, ":", suite, perhaps [otherwise]]]
  | .otherwise => [[mistake otherwiseMistake], ["else", demanded ":", suite]]
  | .whileLoop =>
    [[mistake whileMistake], ["while", namedExpression, ":", suite, perhaps [otherwise]]]
  | .forLoop =>
    [mistake forMistake] ::
      perhapsAsync ["for", targets, "in", commit, starExpressions, ":", suite,
        perhaps [otherwise]] ++
      [[mistake iterationMistake]]
  | .managed =>
    let bracketed : List Pattern :=
      ["with", "(", separated "," [managedItem], perhaps [","], ")", ":", suite]
    let plain : List Pattern := ["with", separated "," [managedItem], ":", suite]
    [[mistake managedSuiteMistake], bracketed, plain, "async" :: bracketed, "async" :: plain,
      [mistake managedMistake]]
  | .managedItem =>
    [[expression, "as", target, ahead [oneOf [[","], [")"], [":"]]]], [mistake managedItemMistake],
      [expression]]
  | .tried =>
    [[mistake triedMistake], ["try", demanded ":", suite, cleanup],
      ["try", demanded ":", suite, several [handler], perhaps [otherwise], perhaps [cleanup]],
      ["try", demanded ":", suite, several [groupHandler], perhaps [otherwise], perhaps [cleanup]]]
  | .handler =>
    [[mistake handlerSuiteMistake], ["except", expression, perhaps ["as", name], ":", suite],
      ["except", ":", suite], [mistake handlerMistake]]
  | .groupHandler =>
    [[mistake groupHandlerSuiteMistake],
      ["except", "*", expression, perhaps ["as", name], ":", suite], [mistake handlerMistake]]
  | .cleanup => [[mistake cleanupMistake], ["finally", demanded ":", suite]]
  | _ => []

def Rule.matchingForms : Rule → List (List Pattern)
  | .matching =>
    [["match", subject, ":", lineEnd, indent, several [matchCase], dedent], [mistake matchingMistake]]
  | .subject => [[starNamedExpression, ",", perhaps [starNamedExpressions]], [namedExpression]]
  | .matchCase => [[mistake matchCaseMistake], ["case", patterns, perhaps [guarded], ":", suite]]
  | .guarded => [["if", namedExpression]]
  | .patterns => [[openSequence], [pattern]]
  | .pattern => [[alternatives, "as", captureTarget], [mistake aliasMistake], [alternatives]]
  | .alternatives => [[separated "|" [closedPattern]]]
  | .closedPattern =>
    [[literalPattern], [captureTarget], ["_"], [dottedPattern, notAhead [oneOf [["."], ["("], ["="]]]],
      ["(", pattern, ")"], ["[", perhaps [patternSequence], "]"], ["(", perhaps [openSequence], ")"],
      ["\x7b", "\x7d"], ["\x7b", restMapping, perhaps [","], "\x7d"],
      ["\x7b", mappingItems, ",", restMapping, perhaps [","], "\x7d"],
      ["\x7b", mappingItems, perhaps [","], "\x7d"],
      [nameOrDotted, "(", ")"], [nameOrDotted, "(", positionalPatterns, perhaps [","], ")"],
      [nameOrDotted, "(", keywordPatterns, perhaps [","], ")"],
      [nameOrDotted, "(", positionalPatterns, ",", keywordPatterns, perhaps [","], ")"],
      [mistake classPatternMistake]]
  | .literalPattern | .literalKey =>
    [[signedNumber, notAhead [oneOf [["+"], ["-"]]]], [complexNumber], [texts], ["None"], ["True"],
      ["False"]]
  | .complexNumber =>
    [[perhaps ["-"], realNumber, oneOf [["+"], ["-"]], imaginaryNumber]]
  | .signedNumber => [[number], ["-", number]]
  | .captureTarget => [[notAhead ["_"], name, notAhead [oneOf [["."], ["("], ["="]]]]]
  | .dottedPattern => [[name, several [".", name]]]
  | .nameOrDotted => [[name, many [".", name]]]
  | .openSequence => [[sequenceItem, ",", perhaps [patternSequence]]]
  | .patternSequence => [[separated "," [sequenceItem], perhaps [","]]]
  | .sequenceItem => [["*", captureTarget], ["*", "_"], [pattern]]
  | .mappingItems => [[separated "," [mappingItem]]]
  | .mappingItem => [[oneOf [[literalKey], [dottedPattern]], ":", pattern]]
  | .restMapping => [["**", captureTarget]]
  | .positionalPatterns => [[separated "," [form .literal [pattern]]]]
  | .keywordPatterns => [[separated "," [keywordPattern]]]
  | .keywordPattern => [[name, "=", pattern]]
  | _ => []

end RecordBuilders.Target.Code
