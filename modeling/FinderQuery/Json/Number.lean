import FinderQuery.Json.Record
import FinderQuery.Number.Shortest

namespace FinderQuery.Json

/-- An integer lies between `-2 ^ 63` and `2 ^ 64 - 1`, and a double is finite. -/
inductive Number where
  | integer (value : Int)
  | float (value : Binary64)

/-- Digits alone are an integer if they fit, all other numerals are doubles, a negative zero among
them; none if the double would be infinite. -/
def Number.ofNumeral? (n : Numeral) : Option Number :=
  let digits := Numeral.natOfDigits n.whole
  if n.isInteger ∧ ¬ n.negative ∧ digits < UInt64.size then some (.integer digits)
  else if n.isInteger ∧ n.negative ∧ 0 < digits ∧ digits ≤ Numeral.signedBound then
    some (.integer (-digits))
  else n.scaled?.map fun magnitude => .float (.finite n.negative magnitude)

def Number.toBinary64 : Number → Binary64
  | integer value => .ofInt value
  | float value => value

def asBinary64? : Json → Option Binary64
  | .number n => (Number.ofNumeral? n).map (·.toBinary64)
  | _ => none

def asUInt64? : Json → Option UInt64
  | .number n =>
    match Number.ofNumeral? n with
    | some (.integer value) =>
      if 0 ≤ value then some (UInt64.ofNat value.toNat) else none
    | _ => none
  | _ => none

/-- A finite double as its shortest numeral; the others are null. -/
def ofBinary64 (x : Binary64) : Json :=
  match x.numeral? with
  | some n => .number n
  | none => .null

def ofNat (n : Nat) : Json := .number (.ofNat n)

def ofInt (i : Int) : Json := .number (.ofInt i)

def record (members : List (String × Json)) : Json :=
  .object (members.map fun (name, value) => (some name, value))

end FinderQuery.Json
