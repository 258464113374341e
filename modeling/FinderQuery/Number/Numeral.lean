import FinderQuery.Number.Binary64

namespace FinderQuery

structure Numeral.Exponent where
  negative : Bool
  digits : List Char
  deriving DecidableEq

/-- A decimal numeral. It has a point exactly if it has fraction digits. -/
structure Numeral where
  negative : Bool
  whole : List Char
  fraction : List Char
  exponent : Option Numeral.Exponent
  deriving DecidableEq

namespace Numeral

def digitValue (c : Char) : Nat := c.toNat - '0'.toNat

def natOfDigits (digits : List Char) : Nat := Nat.ofDigitChars 10 digits 0

def tenTo (exponent : Nat) : Nat := Nat.pow 10 exponent

def signedBound : Nat := 0x8000000000000000

def ofNat (n : Nat) : Numeral := ⟨false, Nat.toDigits 10 n, [], none⟩

def ofInt (i : Int) : Numeral := { ofNat i.natAbs with negative := i < 0 }

def isInteger (n : Numeral) : Bool := n.fraction.isEmpty && n.exponent.isNone

def Exponent.value (e : Exponent) : Int :=
  if e.negative then -(natOfDigits e.digits : Int) else natOfDigits e.digits

def Exponent.toList (e : Exponent) : List Char :=
  'e' :: (if e.negative then '-' else '+') :: e.digits

def toList (n : Numeral) : List Char :=
  (if n.negative then ['-'] else []) ++ n.whole
    ++ (if n.fraction.isEmpty then [] else '.' :: n.fraction)
    ++ match n.exponent with
      | some e => e.toList
      | none => []

/-- The double nearest to the numeral; infinite beyond the largest one. Numerals whose first digit
stands 330 or more places from the point are decided by that place alone. -/
def nearest (n : Numeral) : Binary64 :=
  let significand := natOfDigits (n.whole ++ n.fraction)
  let power := (n.exponent.map (·.value)).getD 0 - n.fraction.length
  let place := power + (Nat.toDigits 10 significand).length
  if significand = 0 ∨ place < -330 then .finite n.negative .zero
  else if 330 < place then .infinity n.negative
  else match Magnitude.nearest? (significand * tenTo power.toNat) (tenTo (-power).toNat) with
    | some magnitude => .finite n.negative magnitude
    | none => .infinity n.negative

def absorb : (significand : Nat) → (digits : List Char) → Nat × Nat
  | significand, [] => (significand, 0)
  | significand, c :: digits =>
    if significand * 10 + digitValue c < UInt64.size then
      absorb (significand * 10 + digitValue c) digits
    else (significand, digits.length + 1)

def powerOfTen (exponent : Nat) : Magnitude := (Magnitude.ofNat? (tenTo exponent)).getD .one

/-- Divides by `10 ^ exponent` in steps of at most 308 places, each step rounded. -/
def divideByPower (m : Magnitude) (exponent : Nat) : Magnitude :=
  if exponent ≤ 308 then (m.div? (powerOfTen exponent)).getD .zero
  else if m = .zero then m
  else divideByPower ((m.div? (powerOfTen 308)).getD .zero) (exponent - 308)
termination_by exponent

/-- The value `significand * 10 ^ exponent` by one rounding to a double and further ones for the
power; none if the product is infinite. -/
def scale? (significand : Nat) (exponent : Int) : Option Magnitude := do
  let m ← Magnitude.ofNat? significand
  if exponent < 0 then some (divideByPower m exponent.natAbs)
  else if exponent ≤ 308 then m.mul? (powerOfTen exponent.natAbs)
  else if m = .zero then some m
  else none

def exponentLimit : Nat := 0x7FFFFFFF

/-- The magnitude of a numeral by scaling. Digits that do not fit into the significand move the
point if they stand before it, and are dropped behind it. An exponent beyond 32 bits leaves zero,
or none if it is positive and the significand is not zero. -/
def scaled? (n : Numeral) : Option Magnitude :=
  let (significand, wholeLeft) := absorb 0 n.whole
  let (significand, fractionLeft) := absorb significand n.fraction
  let power : Int := wholeLeft - (n.fraction.length - fractionLeft : Nat)
  match n.exponent with
  | none => scale? significand power
  | some e =>
    if exponentLimit < natOfDigits e.digits then
      if significand ≠ 0 ∧ ¬ e.negative then none else some .zero
    else
      scale? significand (max (-exponentLimit - 1) (min (power + e.value) exponentLimit))

end Numeral

end FinderQuery
