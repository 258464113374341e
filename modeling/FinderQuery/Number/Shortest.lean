import FinderQuery.Number.Numeral

namespace FinderQuery

open Numeral (tenTo)

structure Decimal where
  digits : Nat
  power : Int
  deriving DecidableEq

namespace Magnitude

/-- Whether `num / den` rounds to this magnitude: it lies between the midpoints to both neighbours,
and on a midpoint only if the significand is even. -/
def isNearestOf (m : Magnitude) (num den : Nat) : Bool :=
  let twice := 2 * num * unitsPerOne
  let low := (unitsOf (m.rank - 1) + m.units) * den
  let high := (m.units + unitsOf (m.rank + 1)) * den
  if m.rank % 2 = 0 then low ≤ twice && twice ≤ high else low < twice && twice < high

def leadingPower (num den : Nat) : Int :=
  if den ≤ num then ((Nat.toDigits 10 (num / den)).length : Int) - 1
  else
    let inverse := (Nat.toDigits 10 (den / num)).length
    if num * tenTo (inverse - 1) = den then 1 - (inverse : Int) else -inverse

/-- The decimal with `power` as its last place that rounds to the magnitude, if there is one: the
nearer of the two around it. -/
def decimalAt? (m : Magnitude) (power : Int) : Option Decimal :=
  let num := m.units * tenTo (-power).toNat
  let den := unitsPerOne * tenTo power.toNat
  let below := num / den
  let fits (digits : Nat) := m.isNearestOf (digits * tenTo power.toNat) (tenTo (-power).toNat)
  let preferred := roundHalfEven num den
  let other := below + (below + 1) - preferred
  if fits preferred then some ⟨preferred, power⟩
  else if fits other then some ⟨other, power⟩
  else none

def shortestFrom (m : Magnitude) (power : Int) : (places : Nat) → Option Decimal
  | 0 => none
  | places + 1 => (m.decimalAt? power).or (m.shortestFrom (power - 1) places)

/-- The shortest decimal that rounds to the magnitude, the nearest one among these. Seventeen digits
always suffice. -/
def shortest? (m : Magnitude) : Option Decimal :=
  if m = .zero then none
  else m.shortestFrom (leadingPower m.units unitsPerOne) 17

end Magnitude

namespace Decimal

def trim (d : Decimal) : Decimal :=
  let digits := (Nat.toDigits 10 d.digits).reverse
  let zeros := (digits.takeWhile (· = '0')).length
  ⟨d.digits / tenTo zeros, d.power + zeros⟩

end Decimal

namespace Binary64

def writesInFull (exponent : Int) : Bool := -5 ≤ exponent && exponent ≤ 15

/-- Lays the digits of a decimal out: in full with at least one fraction digit, or with one digit
before the point and an exponent. -/
def layOut (negative : Bool) (d : Decimal) : Numeral :=
  let digits := Nat.toDigits 10 d.digits
  let exponent := d.power + (digits.length - 1 : Nat)
  if writesInFull exponent then
    if 0 ≤ d.power then
      ⟨negative, digits ++ List.replicate d.power.toNat '0', ['0'], none⟩
    else if 0 ≤ exponent then
      ⟨negative, digits.take (exponent.toNat + 1), digits.drop (exponent.toNat + 1), none⟩
    else
      ⟨negative, ['0'], List.replicate ((-exponent).toNat - 1) '0' ++ digits, none⟩
  else
    ⟨negative, digits.take 1, digits.drop 1,
      some ⟨exponent < 0, Nat.toDigits 10 exponent.natAbs⟩⟩

def numeral? : Binary64 → Option Numeral
  | finite negative magnitude =>
    match magnitude.shortest? with
    | some decimal => some (layOut negative decimal.trim)
    | none => some ⟨negative, ['0'], ['0'], none⟩
  | _ => none

end Binary64

end FinderQuery
