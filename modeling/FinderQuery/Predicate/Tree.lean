import FinderQuery.Predicate.Operator
import FinderQuery.Predicate.Path

namespace FinderQuery

/-- Whether a part asks for its case to be ignored: not at all, where its property allows it, or
by an explicit request. -/
inductive CaseRequest where
  | never
  | whenPossible
  | always
  deriving DecidableEq

namespace CaseRequest

def name : CaseRequest → String
  | never => "never"
  | whenPossible => "when_possible"
  | always => "always"

def ofName? (name : String) : Option CaseRequest :=
  [never, whenPossible, always].find? (·.name = name)

@[simp] theorem ofName?_name (request : CaseRequest) : ofName? request.name = some request := by
  cases request <;> decide

end CaseRequest

structure Part where
  property : PropertyPath
  operator : Operator
  caseRequest : CaseRequest := .never
  deriving DecidableEq

structure PartTree where
  /-- Groups joined by OR, each a list of parts joined by AND. -/
  groups : List (List Part) := []
  distinct : Bool := false
  countProjection : Bool := false
  delete : Bool := false
  maxResults : Option UInt64 := none
  deriving DecidableEq

namespace PartTree

def empty : PartTree := {}

def or (tree : PartTree) (group : List Part) : PartTree :=
  { tree with groups := tree.groups ++ [group] }

def asDistinct (tree : PartTree) : PartTree := { tree with distinct := true }

def asCount (tree : PartTree) : PartTree := { tree with countProjection := true }

def asDelete (tree : PartTree) : PartTree := { tree with delete := true }

def limit (tree : PartTree) (count : UInt64) : PartTree := { tree with maxResults := some count }

def isLimiting (tree : PartTree) : Bool := tree.maxResults.isSome

def parts (tree : PartTree) : List Part := tree.groups.flatten

end PartTree

end FinderQuery
