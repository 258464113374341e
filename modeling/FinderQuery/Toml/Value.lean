import FinderQuery.Number.Binary64

namespace FinderQuery

inductive Toml where
  | string (text : String)
  | integer (value : Int)
  | float (value : Binary64)
  | bool (value : Bool)
  | datetime (text : String)
  | array (items : List Toml)
  | table (members : List (String × Toml))

namespace Toml

/-- How a table came to be: through its own header, as a step on the way of another header, or as
a step of a dotted key. -/
inductive Origin where
  | header
  | path
  | dottedKey
  deriving DecidableEq

inductive Entry where
  | value (value : Toml)
  | table (origin : Origin) (members : List (String × Entry))
  | tables (elements : List (List (String × Entry)))

abbrev Members := List (String × Entry)

namespace Members

def replace (name : String) (entry : Entry) (members : Members) : Members :=
  members.map fun member => if member.1 = name then (name, entry) else member

/-- Writes a value under a dotted key. The tables on its way must have been begun by dotted keys,
the last of them in any case; earlier ones may also stand on the way of a header. -/
def put? (key : String) (value : Toml) : (path : List String) → Members → Option Members
  | [], members =>
    if (members.lookup key).isSome then none else some (members ++ [(key, .value value)])
  | name :: path, members =>
    match members.lookup name with
    | none => do
      let inner ← put? key value path []
      some (members ++ [(name, .table .dottedKey inner)])
    | some (.value _) => none
    | some (.table origin inner) =>
      if origin = .header ∨ (path = [] ∧ origin ≠ .dottedKey) then none
      else do
        let inner ← put? key value path inner
        some (members.replace name (.table origin inner))
    | some (.tables elements) =>
      match path, elements.getLast? with
      | _ :: _, some last => do
        let last ← put? key value path last
        some (members.replace name (.tables (elements.dropLast ++ [last])))
      | _, _ => none

/-- Changes the table at the end of a path, which goes through the last table of an array and
begins tables that are not there. -/
def modify? (change : Members → Option Members) : (path : List String) → Members → Option Members
  | [], members => change members
  | name :: path, members =>
    match members.lookup name with
    | none => do
      let inner ← modify? change path []
      some (members ++ [(name, .table .path inner)])
    | some (.value _) => none
    | some (.table origin inner) => do
      let inner ← modify? change path inner
      some (members.replace name (.table origin inner))
    | some (.tables elements) =>
      match elements.getLast? with
      | some last => do
        let last ← modify? change path last
        some (members.replace name (.tables (elements.dropLast ++ [last])))
      | none => none

/-- Begins the table of a header, which may so far only have been on the way of other headers. -/
def openTable? (name : String) (members : Members) : Option Members :=
  match members.lookup name with
  | none => some (members ++ [(name, .table .header [])])
  | some (.table .path inner) => some (members.replace name (.table .header inner))
  | some _ => none

def appendTable? (name : String) (members : Members) : Option Members :=
  match members.lookup name with
  | none => some (members ++ [(name, .tables [[]])])
  | some (.tables elements) => some (members.replace name (.tables (elements ++ [[]])))
  | some _ => none

end Members

mutual

def Entry.toToml : Entry → Toml
  | .value value => value
  | .table _ members => .table (membersToToml members)
  | .tables elements => .array (elementsToToml elements)

def membersToToml : List (String × Entry) → List (String × Toml)
  | [] => []
  | (name, entry) :: members => (name, entry.toToml) :: membersToToml members

def elementsToToml : List (List (String × Entry)) → List Toml
  | [] => []
  | element :: elements => .table (membersToToml element) :: elementsToToml elements

end

end Toml

end FinderQuery
