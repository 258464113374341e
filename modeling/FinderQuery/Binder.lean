import FinderQuery.Argument
import FinderQuery.BindVars
import FinderQuery.Clause
import FinderQuery.CompileError
import FinderQuery.Text.Like

namespace FinderQuery

namespace PatternMode

def pattern : PatternMode → String → String
  | exact, text => text
  | startsWith, text => Text.escapeLike text ++ "%"
  | endsWith, text => "%" ++ Text.escapeLike text

def operand? : PatternMode → Value → Option Value
  | exact, value => some value
  | mode, value => value.asString?.map fun text => .string (mode.pattern text)

end PatternMode

structure BindRequest where
  operator : Operator
  arity : Nat
  ignoreCase : Bool
  mode : PatternMode

inductive BindOutcome where
  | fixed (slots : Nat)
  | geoDonut
  deriving DecidableEq

def BindOutcome.slots : BindOutcome → Nat
  | fixed slots => slots
  | geoDonut => 4

namespace BindRequest

structure Seen where
  point : Bool := false
  donut : Bool := false
  deriving DecidableEq

def accept (request : BindRequest) (seen : Seen) :
    Argument → Except CompileError (List Value × Seen)
  | .geoPoint point => .ok ([.float point.x, .float point.y], { seen with point := true })
  | .geoRange range =>
    if request.operator = .within ∧ seen.point ∧ ¬ seen.donut then
      .ok ([.float range.lower, .float range.upper], ⟨false, true⟩)
    else .error (.misplacedGeoRange request.operator)
  | .scalar (.array _) => .error (.invalidArgument request.operator .listAsScalar)
  | .scalar value =>
    match request.mode.operand? value with
    | some operand => .ok ([operand], { seen with point := false })
    | none => .error (.invalidArgument request.operator .nonStringAsPattern)
  | .sequence items =>
    if request.mode = .exact then .ok ([.array items], { seen with point := false })
    else .error (.invalidArgument request.operator .sequenceAsPattern)

end BindRequest

structure Binder where
  arguments : List Argument
  vars : BindVars

namespace Binder

def ofArguments (arguments : List Argument) : Binder := ⟨arguments, .empty⟩

def nextKey (binder : Binder) : Nat := binder.vars.size

def remaining (binder : Binder) : Nat := binder.arguments.length

def bindFrom (request : BindRequest) :
    (left : Nat) → BindRequest.Seen → Binder → Except CompileError BindRequest.Seen × Binder
  | 0, seen, binder => (.ok seen, binder)
  | left + 1, seen, binder =>
    match binder.arguments with
    | [] =>
      (.error (.insufficientArguments request.operator request.arity
        (request.arity - (left + 1))), binder)
    | argument :: rest =>
      match request.accept seen (argument.lowercaseIf request.ignoreCase) with
      | .error error => (.error error, ⟨rest, binder.vars⟩)
      | .ok (values, seen) => bindFrom request left seen ⟨rest, binder.vars.pushAll values⟩

/-- Binds the arguments of one part. The binder goes on from the second component, whatever the
outcome. -/
def bind (binder : Binder) (request : BindRequest) :
    Except CompileError BindOutcome × Binder :=
  match binder.bindFrom request request.arity {} with
  | (.error error, after) => (.error error, after)
  | (.ok seen, after) =>
    (.ok (if seen.donut then .geoDonut else .fixed (after.nextKey - binder.nextKey)), after)

end Binder

end FinderQuery
