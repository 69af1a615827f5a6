import RecordBuilders.Config.Basic
import RecordBuilders.Syntax.TypeExpr

/-! Type hints of the generated code. Host types are looked up by their last segment; lifetimes,
constants and references leave no trace. -/
namespace RecordBuilders.Target
open Syntax

/-- Types without a hint. No source text denotes one. -/
inductive HintFault where
  | absentType
  | emptyPath
  deriving Repr, DecidableEq

/-- The hint for a host type whose type arguments have the given hints. A transparent wrapper
gives way to its argument if it has exactly one. -/
def applyHint (map : TypeMap) (name : String) (arguments : List String) : String :=
  let target := map.target name
  match target.isEmpty, arguments with
  | true, [argument] => argument
  | _, _ =>
    let head := if target.isEmpty then name else target
    if arguments.isEmpty then head else head ++ "[" ++ ", ".intercalate arguments ++ "]"

mutual

def hint (map : TypeMap) : TypeExpr → Except HintFault String
  | .path segments => lastHint map segments
  | .reference _ _ referent => hint map referent
  | .tuple elements => do
    let elements ← hints map elements
    return if elements.isEmpty then "tuple[()]" else "tuple[" ++ ", ".intercalate elements ++ "]"
  | .array element _ => do return "list[" ++ (← hint map element) ++ "]"
  | .absent => .error .absentType

def hints (map : TypeMap) : List TypeExpr → Except HintFault (List String)
  | [] => .ok []
  | type :: types => do return (← hint map type) :: (← hints map types)

def lastHint (map : TypeMap) : List Segment → Except HintFault String
  | [] => .error .emptyPath
  | [segment] => segmentHint map segment
  | _ :: segments => lastHint map segments

def segmentHint (map : TypeMap) : Segment → Except HintFault String
  | .plain name => .ok (applyHint map name [])
  | .applied name arguments => do return applyHint map name (← argumentHints map arguments)

/-- Only the arguments that are types have hints. -/
def argumentHints (map : TypeMap) : List GenericArg → Except HintFault (List String)
  | [] => .ok []
  | .type type :: arguments => do return (← hint map type) :: (← argumentHints map arguments)
  | .lifetime _ :: arguments => argumentHints map arguments
  | .const _ :: arguments => argumentHints map arguments

end

end RecordBuilders.Target
