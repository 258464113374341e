import FinderQuery.Clause
import FinderQuery.CompileError

namespace FinderQuery

structure Selection where
  source : Option String := none
  predicate : Option String := none
  deriving DecidableEq

def Fragment.selection : Fragment → Selection
  | source text => { source := some text }
  | predicate text => { predicate := some text }

namespace Selection

structure Builder where
  source : Option String := none
  predicates : List String := []
  deriving DecidableEq

def Builder.putSource (builder : Builder) : Option String → Except CompileError Unit × Builder
  | none => (.ok (), builder)
  | some source =>
    if builder.source.isSome then (.error .multipleGeoSources, builder)
    else (.ok (), { builder with source := some source })

def Builder.putPredicate (builder : Builder) (predicate : Option String) : Builder :=
  { builder with predicates := builder.predicates ++ predicate.toList }

/-- Adds a selection to a builder that goes on from the second component, whatever the outcome. The
source comes first. -/
def Builder.tryAdd (builder : Builder) (selection : Selection) :
    Except CompileError Unit × Builder :=
  match builder.putSource selection.source with
  | (.error error, after) => (.error error, after)
  | (.ok (), after) => (.ok (), after.putPredicate selection.predicate)

/-- Adds a selection to a builder that nothing uses again once an addition fails. -/
def Builder.add (builder : Builder) (selection : Selection) : Except CompileError Builder :=
  match builder.tryAdd selection with
  | (.error error, _) => .error error
  | (.ok (), after) => .ok after

/-- Joins the texts that are not empty; none if all are. -/
def join (separator : String) (texts : List String) : Option String :=
  match texts.filter (! ·.isEmpty) with
  | [] => none
  | texts => some (separator.intercalate texts)

def Builder.build (builder : Builder) (separator : String) : Selection :=
  ⟨builder.source, join separator builder.predicates⟩

def Builder.conjunction (builder : Builder) : Selection := builder.build " AND "

/-- What satisfies something that was added; AND binds tighter. -/
def Builder.disjunction (builder : Builder) : Selection := builder.build " OR "

end Selection

end FinderQuery
