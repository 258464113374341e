import FinderQuery.Decoding
import FinderQuery.Json.Reader

namespace FinderQuery.Json

def namedMembers? (members : List (Text × Json)) : Option (List (String × Json)) :=
  members.mapM fun (key, value) => key.map (·, value)

/-- The values of a record's fields, in the order of their names. An object gives each field at
most once and may hold other members; an array gives them by position, the last ones left out. -/
def fields? (names : List String) : Json → Option (List (Option Json))
  | .object members => do
    let members ← namedMembers? members
    if names.all fun name => (members.filter (·.1 = name)).length ≤ 1 then
      some (names.map fun name => members.lookup name)
    else none
  | .array items =>
    if items.length ≤ names.length then
      some (items.map some ++ List.replicate (names.length - items.length) none)
    else none
  | _ => none

def enter? : (levels : Nat) → Option Nat
  | 0 => none
  | levels + 1 => some levels

def asBool? : Json → Option Bool
  | .bool value => some value
  | _ => none

def asString? : Json → Option String
  | .string text => text
  | _ => none

def asList? (levels : Nat) (read : (levels : Nat) → Json → Option α) : Json → Option (List α)
  | .array items => do
    let levels ← enter? levels
    items.mapM (read levels)
  | _ => none

def orNull (read : Json → Option α) : Json → Option (Option α)
  | .null => some none
  | value => some <$> read value

/-- One of several names, written as a string or as the key of the only member, which is null. -/
def asName? (levels : Nat) (ofName? : String → Option α) : Json → Option α
  | .string text => text.bind ofName?
  | .object [(key, .null)] => do
    let _ ← enter? levels
    key.bind ofName?
  | _ => none

/-- A whole text that `read` accepts within the nesting limit. What it does not look at is not
checked, be it a number beyond the doubles, half a surrogate pair or a deep nesting. -/
def decode? (read : (levels : Nat) → Json → Option α) (text : String) : Option α := do
  read nestingLimit (← parse? text)

end FinderQuery.Json
