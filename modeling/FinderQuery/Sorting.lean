namespace FinderQuery

inductive Direction where
  | ascending
  | descending
  deriving DecidableEq

namespace Direction

def keyword : Direction → String
  | ascending => "ASC"
  | descending => "DESC"

def ofName? : String → Option Direction
  | "ASC" | "asc" => some ascending
  | "DESC" | "desc" => some descending
  | _ => none

@[simp] theorem ofName?_keyword (direction : Direction) :
    ofName? direction.keyword = some direction := by
  cases direction <;> rfl

end Direction

structure SortKey where
  property : String
  direction : Direction := .ascending
  deriving DecidableEq

def SortKey.render (key : SortKey) : String :=
  "e." ++ key.property ++ " " ++ key.direction.keyword

structure Sorting where
  keys : List SortKey
  deriving DecidableEq

namespace Sorting

def unsorted : Sorting := ⟨[]⟩

def and (sorting : Sorting) (key : SortKey) : Sorting := ⟨sorting.keys ++ [key]⟩

def isEmpty (sorting : Sorting) : Bool := sorting.keys.isEmpty

def render (sorting : Sorting) : String :=
  if sorting.isEmpty then "" else "SORT " ++ ", ".intercalate (sorting.keys.map SortKey.render)

/-- The text of a sort with a blank before it; empty without keys. -/
def clause : Option Sorting → String
  | none => ""
  | some sorting => if sorting.isEmpty then "" else " " ++ sorting.render

end Sorting

end FinderQuery
