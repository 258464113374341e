import FinderQuery.CompileError
import FinderQuery.Catalog

namespace FinderQuery

inductive Event where
  | meaninglessCaseRequest (property : PropertyPath) (operator : Operator) (kind : PropertyKind)
  | partBound (operator : Operator) (first written : Nat)
  | partCompiled (property : PropertyPath) (operator : Operator) (first slots : Nat)
  | distinctWithoutCount (collection : String)
  | sortMissing
  | argumentsUnused (entity : String) (count : Nat)
  | compiled (entity : String) (binds : Nat) (query : String)
  deriving DecidableEq

namespace Event

inductive Level where
  | debug
  | trace
  deriving DecidableEq

inductive Field where
  | text (text : String)
  | count (count : Nat)
  deriving DecidableEq

def level : Event → Level
  | partBound .. | partCompiled .. => .trace
  | _ => .debug

def name : Event → String
  | meaninglessCaseRequest .. => "derived.ignore_case.meaningless"
  | partBound .. => "derived.bind.part"
  | partCompiled .. => "derived.compile.part"
  | distinctWithoutCount _ => "derived.distinct.without_count"
  | sortMissing => "derived.sort.missing"
  | argumentsUnused .. => "derived.arguments.unused"
  | compiled .. => "derived.compile.done"

def kindLabel : PropertyKind → String
  | .string => "String"
  | .number => "Number"
  | .boolean => "Boolean"
  | .geo => "Geo"
  | .other => "Other"

def fields : Event → List (String × Field)
  | meaninglessCaseRequest property operator kind =>
    [("property", .text property.display), ("operator", .text operator.name),
      ("kind", .text (kindLabel kind))]
  | partBound operator first written =>
    [("operator", .text operator.name), ("first", .count first), ("written", .count written)]
  | partCompiled property operator first slots =>
    [("property", .text property.display), ("operator", .text operator.name),
      ("first", .count first), ("slots", .count slots)]
  | distinctWithoutCount collection => [("collection", .text collection)]
  | sortMissing => []
  | argumentsUnused entity count => [("entity", .text entity), ("unused", .count count)]
  | compiled entity binds query =>
    [("entity", .text entity), ("binds", .count binds), ("query", .text query)]

end Event

structure Traced (α : Type) where
  events : List Event
  result : Except CompileError α

namespace Traced

variable {α β : Type}

def ofExcept (result : Except CompileError α) : Traced α := ⟨[], result⟩

def report (events : List Event) : Traced Unit := ⟨events, .ok ()⟩

/-- After an error nothing more is reported. -/
def andThen (first : Traced α) (next : α → Traced β) : Traced β :=
  match first.result with
  | .ok value => ⟨first.events ++ (next value).events, (next value).result⟩
  | .error error => ⟨first.events, .error error⟩

instance : Monad Traced where
  pure value := ⟨[], .ok value⟩
  bind := andThen

@[simp] theorem result_ofExcept (result : Except CompileError α) :
    (ofExcept result).result = result := rfl

@[simp] theorem result_report (events : List Event) : (report events).result = .ok () := rfl

@[simp] theorem result_pure (value : α) : (pure value : Traced α).result = .ok value := rfl

@[simp] theorem result_bind (first : Traced α) (next : α → Traced β) :
    (first >>= next).result = first.result >>= fun value => (next value).result := by
  obtain ⟨events, result⟩ := first
  cases result <;> rfl

@[simp] theorem ofExcept_ok_bind (value : α) (next : α → Traced β) :
    (ofExcept (.ok value) >>= next) = next value := rfl

@[simp] theorem ofExcept_error_bind (error : CompileError) (next : α → Traced β) :
    (ofExcept (.error error) >>= next) = ⟨[], .error error⟩ := rfl

theorem report_bind (events : List Event) (next : Unit → Traced β) :
    (report events >>= next) = ⟨events ++ (next ()).events, (next ()).result⟩ := rfl

end Traced

end FinderQuery
