import RecordBuilders.Target.Code.Grammar.Expressions
import RecordBuilders.Target.Code.Grammar.Mistakes
import RecordBuilders.Target.Code.Grammar.Statements

/-! The grammar of the target language as a whole. -/
namespace RecordBuilders.Target.Code

/-- The alternatives of a rule, of which the first one that fits is taken. -/
def Rule.body (r : Rule) : List (List Pattern) :=
  r.operationForms ++ r.primaryForms ++ r.parameterForms ++ r.targetForms ++
    r.simpleStatementForms ++ r.compoundStatementForms ++ r.matchingForms ++
    r.expressionMistakes ++ r.argumentMistakes ++ r.parameterMistakes ++ r.statementMistakes

/-- Rules that begin with themselves. What one of them has read so far is the start of what it reads
next. -/
def Rule.isLeftRecursive : Rule → Bool
  | .bitOr | .bitXor | .bitAnd | .shift | .sum | .term | .primary | .targetPrimary => true
  | _ => false

/-- Rules whose answer at a place is kept. Where mistakes are looked for, an answer that was found
without regard to them counts as well. -/
def Rule.isRemembered : Rule → Bool
  | .simpleStatement | .suite | .closedPattern | .expression | .starExpression | .disjunction
  | .conjunction | .inversion | .factor | .awaited | .texts | .arguments | .target
  | .starlessTarget | .deletionTarget | .namedExpressionMistake => true
  | _ => false

end RecordBuilders.Target.Code
