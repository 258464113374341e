namespace FinderQuery

/-- The quotient to the nearest integer, a tie going to the even one. -/
def roundHalfEven (num den : Nat) : Nat :=
  let quotient := num / den
  let twice := 2 * (num % den)
  if twice < den then quotient
  else if den < twice then quotient + 1
  else quotient + quotient % 2

def Magnitude.perScale : Nat := 0x10000000000000

def Magnitude.count : Nat := 2047 * perScale

/-- The distance of a finite double from zero, given by its rank among these distances: zero has
rank 0, the smallest positive double rank 1. The rank is also the double's bit pattern. -/
structure Magnitude where
  rank : Nat
  rank_lt : rank < Magnitude.count
  deriving DecidableEq

inductive Binary64 where
  | nan
  | infinity (negative : Bool)
  | finite (negative : Bool) (magnitude : Magnitude)
  deriving DecidableEq

namespace Magnitude

def zero : Magnitude := ⟨0, by decide⟩

def one : Magnitude := ⟨1023 * perScale, by decide⟩

def significandOf (rank : Nat) : Nat :=
  if rank < perScale then rank else perScale + rank % perScale

def scaleOf (rank : Nat) : Nat := rank / perScale - 1

/-- The value of a rank in units of `2 ^ -1074`, the smallest positive double. -/
def unitsOf (rank : Nat) : Nat := significandOf rank <<< scaleOf rank

def units (m : Magnitude) : Nat := unitsOf m.rank

def unitsPerOne : Nat := 1 <<< 1074

/-- The nearest double to `num / den`; none if that lies beyond the largest double. -/
def nearest? (num den : Nat) : Option Magnitude :=
  let units := num * unitsPerOne / den
  let scale := units.log2 - 52
  let rank := scale * perScale + roundHalfEven (num * unitsPerOne) (den <<< scale)
  if h : rank < count then some ⟨rank, h⟩ else none

def ofNat? (n : Nat) : Option Magnitude := nearest? n 1

def mul? (a b : Magnitude) : Option Magnitude :=
  nearest? (a.units * b.units) (unitsPerOne * unitsPerOne)

def div? (a b : Magnitude) : Option Magnitude := nearest? a.units b.units

end Magnitude

namespace Binary64

def ofInt (i : Int) : Binary64 :=
  match Magnitude.ofNat? i.natAbs with
  | some magnitude => .finite (i < 0) magnitude
  | none => .infinity (i < 0)

def isFinite : Binary64 → Bool
  | finite .. => true
  | _ => false

end Binary64

end FinderQuery
