import RecordBuilders.Target.Code.Pattern

/-! The grammar of expressions, with the targets of assignments. -/
namespace RecordBuilders.Target.Code
open Rule Pattern

/-- Operands of one rank between operators of that rank, grouped from the left. -/
def leftOperations (rank operand : Rule) (operators : List String) : List (List Pattern) :=
  operators.map (fun operator => [form .operation [rank, symbol operator, operand]]) ++
    [[rule operand]]

/-- Operands with one of the words between each two of them. -/
def joined (operand : Rule) (word : String) : List (List Pattern) :=
  [[form .operation [operand, several [symbol word, operand]]], [operand]]

/-- A single item stays as it is; with a comma behind it, or with others, it makes a tuple. -/
def tupleOf (item : Rule) : List (List Pattern) :=
  [[form .tuple [item, several [",", item], perhaps [","]]], [form .tuple [item, ","]], [item]]

def constant (word : String) : List Pattern := [form (.constant word) [symbol word]]

/-- A bracket decides between the displays that it opens. -/
def opened (bracket : String) (displays : List Rule) : List Pattern :=
  [ahead [symbol bracket], oneOf (displays.map ([rule ·]))]

def Rule.operationForms : Rule → List (List Pattern)
  | .expressions => tupleOf expression
  | .expression =>
    [[mistake expressionMistake], [mistake formerStatementMistake],
      [form .conditional [disjunction, "if", disjunction, "else", expression]], [disjunction],
      [lambdaExpression]]
  | .unmistaken =>
    [[form .conditional [disjunction, "if", disjunction, "else", expression]], [disjunction],
      [lambdaExpression]]
  | .yieldExpression =>
    [[form .yield ["yield", "from", expression]], [form .yield ["yield", perhaps [starExpressions]]]]
  | .starExpressions => tupleOf starExpression
  | .starExpression => [[form .starred ["*", bitOr]], [expression]]
  | .starNamedExpressions => [[separated "," [starNamedExpression], perhaps [","]]]
  | .starNamedExpression => [[form .starred ["*", bitOr]], [namedExpression]]
  | .assignmentExpression => [[form .named [name, ":=", commit, expression]]]
  | .namedExpression =>
    [[assignmentExpression], [mistake namedExpressionMistake], [expression, notAhead [":="]]]
  | .disjunction => joined conjunction "or"
  | .conjunction => joined inversion "and"
  | .inversion => [[form .operation ["not", inversion]], [comparison]]
  | .comparison =>
    [[form (.comparison true) [bitOr, ahead ["in"], several [comparisonTail]]],
      [form (.comparison false) [bitOr, several [comparisonTail]]], [bitOr]]
  | .comparisonTail =>
    [["==", bitOr], ["!=", bitOr], ["<=", bitOr], ["<", bitOr], [">=", bitOr], [">", bitOr],
      ["not", "in", bitOr], ["in", bitOr], ["is", "not", bitOr], ["is", bitOr]]
  | .bitOr => leftOperations bitOr bitXor ["|"]
  | .bitXor => leftOperations bitXor bitAnd ["^"]
  | .bitAnd => leftOperations bitAnd shift ["&"]
  | .shift => leftOperations shift sum ["<<", ">>"]
  | .sum => leftOperations sum term ["+", "-"]
  | .term => leftOperations term factor ["*", "/", "//", "%", "@"]
  | .factor =>
    ["+", "-", "~"].map (fun sign => [form .operation [symbol sign, factor]]) ++ [[rule power]]
  | .power => [[form .operation [awaited, "**", factor]], [awaited]]
  | .awaited => [[form .await ["await", primary]], [primary]]
  | _ => []

def Rule.primaryForms : Rule → List (List Pattern)
  | .primary =>
    [[form .member [primary, ".", name]], [form .call [primary, generator]],
      [form .call [primary, "(", perhaps [arguments], ")"]],
      [form .subscript [primary, "[", slices, "]"]], [atom]]
  | .slices =>
    [[slice, notAhead [","]],
      [form .tuple [separated "," [oneOf [[slice], [starredArgument]]], perhaps [","]]]]
  | .slice =>
    [[perhaps [expression], ":", perhaps [expression], perhaps [":", perhaps [expression]]],
      [namedExpression]]
  | .atom =>
    [[name], constant "True", constant "False", constant "None", [ahead [quotation], texts],
      [form .literal [number]], opened "(" [tuple, group, generator],
      opened "[" [list, listComprehension], opened "\x7b" [dict, set, dictComprehension, setComprehension],
      [form .ellipsis ["..."]]]
  | .group => [["(", oneOf [[yieldExpression], [namedExpression]], ")"], [mistake groupMistake]]
  | .lambdaExpression =>
    [[form .lambda ["lambda", perhaps [parameterList .lambda], ":", form .body [expression]]]]
  | .texts => [[quotations]]
  | .list => [[form .list ["[", perhaps [starNamedExpressions], "]"]]]
  | .tuple =>
    [[form .tuple ["(", perhaps [starNamedExpression, ",", perhaps [starNamedExpressions]], ")"]]]
  | .set => [[form .set ["\x7b", starNamedExpressions, "\x7d"]]]
  | .dict =>
    [[form .dict ["\x7b", perhaps [entries], "\x7d"]], ["\x7b", rule entriesMistake, "\x7d"]]
  | .entries => [[separated "," [entry], perhaps [","]]]
  | .entry => [[form .entry ["**", bitOr]], [form .entry [pair]]]
  | .pair => [[expression, ":", expression]]
  | .clauses => [[several [clause]]]
  | .clause =>
    let plain : List Pattern :=
      [form .clause ["for", targets, "in", commit, disjunction, many ["if", disjunction]]]
    [[form .clause ["async", "for", targets, "in", commit, disjunction, many ["if", disjunction]]],
      plain, [mistake iterationMistake]]
  | .listComprehension =>
    [[form .listComprehension ["[", namedExpression, clauses, "]"]], [mistake comprehensionMistake]]
  | .setComprehension =>
    [[form .setComprehension ["\x7b", namedExpression, clauses, "\x7d"]],
      [mistake comprehensionMistake]]
  | .generator =>
    [[form .generator ["(", oneOf [[assignmentExpression], [expression, notAhead [":="]]], clauses,
        ")"]],
      [mistake comprehensionMistake]]
  | .dictComprehension =>
    [[form .dictComprehension ["\x7b", pair, clauses, "\x7d"]], [mistake dictComprehensionMistake]]
  | .arguments => [[argumentSequence, perhaps [","], ahead [")"]], [mistake argumentsMistake]]
  | .argumentSequence =>
    [[separated "," [positionalArgument], perhaps [",", keywordArguments]], [keywordArguments]]
  | .positionalArgument =>
    [[starredArgument],
      [oneOf [[assignmentExpression], [expression, notAhead [":="]]], notAhead ["="]]]
  | .keywordArguments =>
    [[separated "," [keywordOrStarred], ",", separated "," [keywordOrDoubleStarred]],
      [separated "," [keywordOrStarred]], [separated "," [keywordOrDoubleStarred]]]
  | .starredArgument => [[form .starred ["*", expression]]]
  | .keywordOrStarred =>
    [[mistake keywordMistake], [form .argument [name, "=", expression]], [starredArgument]]
  | .keywordOrDoubleStarred =>
    [[mistake keywordMistake], [form .argument [name, "=", expression]],
      [form .unpacked ["**", expression]]]
  | _ => []

/-- A comma stands behind a parameter, or nothing behind the last one. -/
def endedParameter (owner : Owner) (items : List Pattern) : List (List Pattern) :=
  [items ++ [symbol ","], items ++ [ahead [symbol owner.closing]]]

def Rule.parameterForms : Rule → List (List Pattern)
  | .parameterList o => [[mistake (parametersMistake o)], [parameters o]]
  | .parameters o =>
    [[positionalOnly o, many [plainParameter o], many [parameterWithDefault o],
        perhaps [starParameters o]],
      [positionalOnlyWithDefault o, many [parameterWithDefault o], perhaps [starParameters o]],
      [several [plainParameter o], many [parameterWithDefault o], perhaps [starParameters o]],
      [several [parameterWithDefault o], perhaps [starParameters o]], [starParameters o]]
  | .positionalOnly o => endedParameter o [several [plainParameter o], "/"]
  | .positionalOnlyWithDefault o =>
    endedParameter o [many [plainParameter o], several [parameterWithDefault o], "/"]
  | .starParameters .method =>
    [[mistake (starParametersMistake .method)],
      ["*", form .rest [plainParameter .method], many [anyParameter .method],
        perhaps [keywordRest .method]],
      ["*", form .rest [starHintedParameter], many [anyParameter .method],
        perhaps [keywordRest .method]],
      ["*", ",", several [anyParameter .method], perhaps [keywordRest .method]],
      [keywordRest .method]]
  | .starParameters .lambda =>
    [[mistake (starParametersMistake .lambda)],
      ["*", form .rest [plainParameter .lambda], many [anyParameter .lambda],
        perhaps [keywordRest .lambda]],
      ["*", ",", several [anyParameter .lambda], perhaps [keywordRest .lambda]],
      [keywordRest .lambda]]
  | .keywordRest o => [[mistake (keywordRestMistake o)], ["**", form .rest [plainParameter o]]]
  | .plainParameter o => endedParameter o [parameter o]
  | .starHintedParameter =>
    endedParameter .method [form .parameter [name, ":", form .hint [starExpression]]]
  | .parameterWithDefault o => endedParameter o [parameter o, defaultValue]
  | .anyParameter o => endedParameter o [parameter o, perhaps [defaultValue]]
  | .parameter .method => [[form .parameter [name, perhaps [":", form .hint [expression]]]]]
  | .parameter .lambda => [[form .parameter [name]]]
  | .defaultValue => [[form .fallback ["=", expression]], [mistake defaultMistake]]
  | _ => []

def Rule.targetForms : Rule → List (List Pattern)
  | .targets =>
    [[target, notAhead [","]], [form .tuple [target, many [",", target], perhaps [","]]]]
  | .targetSequence => [[separated "," [target], perhaps [","]]]
  | .tupleTargets => [[target, several [",", target], perhaps [","]], [target, ","]]
  | .target => [[form .starred ["*", notAhead ["*"], target]], [starlessTarget]]
  | .starlessTarget => [[memberTarget], [targetAtom]]
  | .targetAtom =>
    [[name], ["(", starlessTarget, ")"], [form .tuple ["(", perhaps [tupleTargets], ")"]],
      [form .list ["[", perhaps [targetSequence], "]"]]]
  | .singleTarget => [[memberTarget], [name], ["(", singleTarget, ")"]]
  | .memberTarget =>
    [[form .member [targetPrimary, ".", name, notAhead [targetTail]]],
      [form .subscript [targetPrimary, "[", slices, "]", notAhead [targetTail]]]]
  | .targetPrimary =>
    [[form .member [targetPrimary, ".", name], ahead [targetTail]],
      [form .subscript [targetPrimary, "[", slices, "]"], ahead [targetTail]],
      [form .call [targetPrimary, generator], ahead [targetTail]],
      [form .call [targetPrimary, "(", perhaps [arguments], ")"], ahead [targetTail]],
      [atom, ahead [targetTail]]]
  | .targetTail => [["("], ["["], ["."]]
  | .deletionTargets => [[separated "," [deletionTarget], perhaps [","]]]
  | .deletionTarget => [[memberTarget], [deletionAtom]]
  | .deletionAtom =>
    [[name], ["(", deletionTarget, ")"], [form .tuple ["(", perhaps [deletionTargets], ")"]],
      [form .list ["[", perhaps [deletionTargets], "]"]]]
  | _ => []

end RecordBuilders.Target.Code
