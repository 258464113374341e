namespace FinderQuery.Text

def hexValue? (c : Char) : Option Nat :=
  if '0' ≤ c ∧ c ≤ '9' then some (c.toNat - '0'.toNat)
  else if 'a' ≤ c ∧ c ≤ 'f' then some (c.toNat - 'a'.toNat + 10)
  else if 'A' ≤ c ∧ c ≤ 'F' then some (c.toNat - 'A'.toNat + 10)
  else none

def hexNumberAfter? : (number : Nat) → List Char → Option Nat
  | number, [] => some number
  | number, c :: rest => do hexNumberAfter? (number * 16 + (← hexValue? c)) rest

def hexNumber? (digits : List Char) : Option Nat := hexNumberAfter? 0 digits

end FinderQuery.Text
