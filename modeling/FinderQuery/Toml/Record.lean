import FinderQuery.Decoding
import FinderQuery.Table
import FinderQuery.Toml.Value

namespace FinderQuery.Toml

/-- The values of a record's fields, in the order of their names. A table may hold other members
too; an array gives the fields by position. A date or time has none of them. -/
def fields? (names : List String) : Toml → Option (List (Option Toml))
  | .table members => some (names.map fun name => members.lookup name)
  | .array items => some (names.mapIdx fun position _ => items[position]?)
  | .datetime _ => some (names.map fun _ => none)
  | _ => none

def asString? : Toml → Option String
  | .string text => some text
  | _ => none

def asBool? : Toml → Option Bool
  | .bool value => some value
  | _ => none

def asTable? (read : Toml → Option α) : Toml → Option (Table α)
  | .table members => do
    let entries ← members.mapM fun (name, member) => do some (name, ← read member)
    some (.ofList entries)
  | _ => none

def isEmpty : Toml → Bool
  | .table [] => true
  | .array [] => true
  | _ => false

/-- One of several names, written as a string or as the key of the only member of a table, which
is empty. -/
def asName? (ofName? : String → Option α) : Toml → Option α
  | .string name => ofName? name
  | .table [(name, member)] => if member.isEmpty then ofName? name else none
  | _ => none

end FinderQuery.Toml
