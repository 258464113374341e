import FinderQuery.Binder
import FinderQuery.CasePolicy
import FinderQuery.Event
import FinderQuery.Query

namespace FinderQuery

namespace Compile

structure Target where
  metadata : Metadata
  entity : String
  collection : String

def templateOf (operator : Operator) : Except CompileError Template :=
  match operator.template? with
  | some template => .ok template
  | none => .error (.unsupportedOperator operator)

/-- The fragment of a part, whose variables are written. A part that wrote a range becomes a donut,
whatever its own template. -/
def part (target : Target) (part : Part) (binder : Binder) : Traced (Fragment × Binder) := do
  let leaf ← .ofExcept (target.metadata.leafProperty target.entity part.property)
  let field ← .ofExcept (target.metadata.fieldPath target.entity part.property)
  .report (if part.requestIsMeaningless leaf then
    [.meaninglessCaseRequest part.property part.operator leaf.kind] else [])
  let ignoreCase := part.ignoresCase leaf
  let context : ClauseContext :=
    ⟨target.collection, leaf.reference field ignoreCase, ignoreCase⟩
  let template ← .ofExcept (templateOf part.operator)
  let bound := binder.bind ⟨part.operator, template.arity, ignoreCase, template.mode⟩
  let outcome ← .ofExcept bound.1
  let first := binder.nextKey
  .report
    [.partBound part.operator first (bound.2.nextKey - first),
      .partCompiled part.property part.operator first outcome.slots]
  let chosen := if outcome = .geoDonut then Template.donut else template
  pure (chosen.render context first, bound.2)

def addAll {α β : Type} (compile : α → Binder → Traced (β × Binder)) (selection : β → Selection) :
    Selection.Builder → List α → Binder → Traced (Selection.Builder × Binder)
  | builder, [], binder => pure (builder, binder)
  | builder, item :: rest, binder => do
    let (compiled, binder) ← compile item binder
    let builder ← .ofExcept (builder.add (selection compiled))
    addAll compile selection builder rest binder

def group (target : Target) :
    Selection.Builder → List Part → Binder → Traced (Selection.Builder × Binder) :=
  addAll (part target) Fragment.selection

def groups (target : Target) :
    Selection.Builder → List (List Part) → Binder → Traced (Selection.Builder × Binder) :=
  addAll (group target {}) Selection.Builder.conjunction

def closingEvents (target : Target) (tree : PartTree) (sorting : Option Sorting) (binder : Binder)
    (query : String) : List Event :=
  (if tree.distinct && !tree.countProjection then [.distinctWithoutCount target.collection]
    else [])
    ++ (if sorting.isNone then [.sortMissing] else [])
    ++ (if 0 < binder.remaining then [.argumentsUnused target.entity binder.remaining] else [])
    ++ [.compiled target.entity binder.vars.size query]

end Compile

def compile (metadata : Metadata) (entity : String) (tree : PartTree) (arguments : List Argument)
    (sorting : Option Sorting) : Traced CompiledQuery := do
  let collection ← .ofExcept (metadata.collectionName entity)
  let target : Compile.Target := ⟨metadata, entity, collection⟩
  let (builder, binder) ← Compile.groups target {} tree.groups (.ofArguments arguments)
  let text := Query.assemble collection builder.disjunction tree sorting
  .report (Compile.closingEvents target tree sorting binder text)
  pure ⟨text, binder.vars⟩

end FinderQuery
