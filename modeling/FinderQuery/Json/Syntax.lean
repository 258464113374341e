import FinderQuery.Number.Numeral

namespace FinderQuery

/-- The characters of a JSON string; none if an escape in it names half of a surrogate pair alone,
so that there are no such characters. -/
abbrev Json.Text := Option String

/-- A JSON text by the grammar alone: numbers are as written, and members may repeat. -/
inductive Json where
  | null
  | bool (value : Bool)
  | number (numeral : Numeral)
  | string (text : Json.Text)
  | array (items : List Json)
  | object (members : List (Json.Text × Json))

namespace Json

inductive Token where
  | leftBracket
  | rightBracket
  | leftBrace
  | rightBrace
  | colon
  | comma
  | null
  | bool (value : Bool)
  | number (numeral : Numeral)
  | string (text : Text)
  deriving DecidableEq

def nestingLimit : Nat := 127

end Json

end FinderQuery
