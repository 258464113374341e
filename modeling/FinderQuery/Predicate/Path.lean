namespace FinderQuery

structure PropertyPath where
  segments : List String
  deriving DecidableEq

namespace PropertyPath

/-- Splits at the dots; empty names are dropped. -/
def parse (dotted : String) : PropertyPath :=
  ⟨((dotted.toList.splitOn '.').filter (! ·.isEmpty)).map String.ofList⟩

def display (path : PropertyPath) : String := ".".intercalate path.segments

def leaf? (path : PropertyPath) : Option String := path.segments.getLast?

end PropertyPath

end FinderQuery
