import FinderQuery.Toml.Scalar

namespace FinderQuery.Toml

def dropGaps : (inComment : Bool) → List Char → List Char
  | _, [] => []
  | _, '\r' :: '\n' :: rest => dropGaps false rest
  | inComment, c :: rest =>
    if c = '\n' then dropGaps false rest
    else if if inComment then isPrintable c else isBlank c then dropGaps inComment rest
    else if c = '#' ∧ ¬ inComment then dropGaps true rest
    else c :: rest

def dropComment : List Char → List Char
  | '#' :: rest => rest.dropWhile isPrintable
  | cs => cs

def lineEnd? (cs : List Char) : Option (List Char) :=
  match dropComment (dropBlanks cs) with
  | [] => some []
  | cs => afterNewline? cs

structure Key where
  path : List String
  name : String

def Key.names (key : Key) : List String := key.path ++ [key.name]

def isBareKeyChar (c : Char) : Bool := c.isAlphanum || c = '-' || c = '_'

def keyName? : List Char → Option (List Char × List Char)
  | '"' :: rest => basicString? rest
  | '\'' :: rest => literalString? rest
  | cs =>
    let name := cs.takeWhile isBareKeyChar
    if name.isEmpty then none else some (name, cs.dropWhile isBareKeyChar)

def keyOfLength? : (greatest : Nat) → List Char → Option (Key × List Char)
  | 0, _ => none
  | greatest + 1, cs => do
    let (name, cs) ← keyName? (dropBlanks cs)
    let name := String.ofList name
    match dropBlanks cs with
    | '.' :: rest => do
      let (key, rest) ← keyOfLength? greatest rest
      some (⟨name :: key.path, key.name⟩, rest)
    | cs => some (⟨[], name⟩, cs)

/-- Keys have fewer than 80 names, and values are nested in fewer than 80 others. -/
def nestingLimit : Nat := 79

def key? (cs : List Char) : Option (Key × List Char) := keyOfLength? nestingLimit cs

section Nested

variable (value? : List Char → Option (Toml × List Char))

def items? : (fuel : Nat) → List Char → Option (List Toml × List Char)
  | 0, _ => none
  | fuel + 1, cs => do
    let (item, cs) ← value? (dropGaps false cs)
    match dropGaps false cs with
    | ']' :: rest => some ([item], rest)
    | ',' :: rest =>
      match dropGaps false rest with
      | ']' :: rest => some ([item], rest)
      | rest => do
        let (items, rest) ← items? fuel rest
        some (item :: items, rest)
    | _ => none

def array? (cs : List Char) : Option (Toml × List Char) :=
  match dropGaps false cs with
  | ']' :: rest => some (.array [], rest)
  | cs => do
    let (items, rest) ← items? value? cs.length cs
    some (.array items, rest)

def assignment? (table : List String) (members : Members) (cs : List Char) :
    Option (Members × List Char) := do
  let (key, cs) ← key? cs
  let cs ← expect? '=' cs
  let (value, cs) ← value? (dropBlanks cs)
  let members ← members.modify? (Members.put? key.name value key.path) table
  some (members, cs)

def assignments? : (fuel : Nat) → Members → List Char → Option (Members × List Char)
  | 0, _, _ => none
  | fuel + 1, members, cs => do
    let (members, cs) ← assignment? value? [] members cs
    match dropBlanks cs with
    | '}' :: rest => some (members, rest)
    | ',' :: rest => assignments? fuel members rest
    | _ => none

def inlineTable? (cs : List Char) : Option (Toml × List Char) :=
  match dropBlanks cs with
  | '}' :: rest => some (.table [], rest)
  | cs => do
    let (members, rest) ← assignments? value? cs.length [] cs
    some (.table (membersToToml members), rest)

end Nested

def value? : (levels : Nat) → List Char → Option (Toml × List Char)
  | levels + 1, '[' :: rest => array? (value? levels) rest
  | levels + 1, '{' :: rest => inlineTable? (value? levels) rest
  | _, cs => scalar? cs

structure Draft where
  root : Members := []
  table : List String := []

namespace Draft

def header? (draft : Draft) (change : String → Members → Option Members) (key : Key) :
    Option Draft := do
  let root ← draft.root.modify? (change key.name) key.path
  some ⟨root, key.names⟩

def statement? (draft : Draft) : List Char → Option (Draft × List Char)
  | '[' :: '[' :: rest => do
    let (key, rest) ← key? rest
    let rest ← expect? ']' (← expect? ']' rest)
    some (← draft.header? Members.appendTable? key, rest)
  | '[' :: rest => do
    let (key, rest) ← key? rest
    some (← draft.header? Members.openTable? key, ← expect? ']' rest)
  | cs => do
    let (root, rest) ← assignment? (value? nestingLimit) draft.table draft.root cs
    some (⟨root, draft.table⟩, rest)

def lines? : (fuel : Nat) → Draft → List Char → Option Draft
  | _, draft, [] => some draft
  | 0, _, _ => none
  | fuel + 1, draft, cs =>
    match lineEnd? cs with
    | some rest => lines? fuel draft rest
    | none => do
      let (draft, rest) ← draft.statement? (dropBlanks cs)
      lines? fuel draft (← lineEnd? rest)

end Draft

def dropByteOrderMark : List Char → List Char
  | '\ufeff' :: rest => rest
  | cs => cs

def parse? (text : String) : Option Toml := do
  let cs := dropByteOrderMark text.toList
  let draft ← Draft.lines? cs.length {} cs
  some (.table (membersToToml draft.root))

end FinderQuery.Toml
