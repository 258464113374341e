import FinderQuery.Value

namespace FinderQuery

structure Point where
  x : Binary64
  y : Binary64
  deriving DecidableEq

/-- The distances from a point that lie beyond `lower` and not beyond `upper`. -/
structure Range where
  lower : Binary64
  upper : Binary64
  deriving DecidableEq

inductive Argument where
  | scalar (value : Value)
  | sequence (items : List Value)
  | geoPoint (point : Point)
  | geoRange (range : Range)

namespace Argument

def lowercase : Argument → Argument
  | scalar value => scalar value.lowercase
  | sequence items => sequence (items.map Value.lowercase)
  | geo => geo

def lowercaseIf (ignoreCase : Bool) (argument : Argument) : Argument :=
  if ignoreCase then argument.lowercase else argument

end Argument

end FinderQuery
