import RecordBuilders.Syntax.TypeExpr

/-! Types that wrap one other type. -/
namespace RecordBuilders.Syntax

/-- The `T` of `wrapper<T>`. Only the first segment of a path counts, so a qualified wrapper does
not match; neither do lifetimes, constants or more than one argument. -/
def TypeExpr.unwrap? (wrapper : String) : TypeExpr → Option TypeExpr
  | .path (.applied _ [.type .absent] :: _) => none
  | .path (.applied name [.type inner] :: _) => if name = wrapper then some inner else none
  | _ => none

end RecordBuilders.Syntax
