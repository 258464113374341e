import FinderQuery.Argument
import FinderQuery.Json.Number

namespace FinderQuery

open Decoding (required)
open Json (enter? fields? asList? asName? asBinary64?)

/-- Integers that fit into 64 bits with a sign stay integers. -/
def Value.ofNumber : Json.Number → Value
  | .integer value =>
    if value < Numeral.signedBound then .int (.ofInt value) else .float (.ofInt value)
  | .float value => .float value

def Value.ofJson? : (levels : Nat) → Json → Option Value
  | _, .null => some .null
  | _, .bool value => some (.bool value)
  | _, .number n => (Json.Number.ofNumeral? n).map Value.ofNumber
  | _, .string text => text.map .string
  | levels + 1, .array items => (items.mapM (Value.ofJson? levels)).map .array
  | 0, .array _ => none
  | _, .object _ => none

mutual

def Value.toJson : Value → Json
  | .null => .null
  | .bool value => .bool value
  | .int value => .ofInt value.toInt
  | .float value => .ofBinary64 value
  | .string text => .string (some text)
  | .array items => .array (Value.listToJson items)

def Value.listToJson : List Value → List Json
  | [] => []
  | item :: items => Value.toJson item :: Value.listToJson items

end

@[simp] theorem Value.listToJson_eq_map (items : List Value) :
    Value.listToJson items = items.map Value.toJson := by
  induction items with
  | nil => rfl
  | cons item items ih => simp [Value.listToJson, ih]

def ofDoubles? {α : Type} (first second : String) (make : Binary64 → Binary64 → α) (levels : Nat)
    (json : Json) : Option α := do
  let _ ← enter? levels
  let [x, y] ← fields? [first, second] json | none
  some (make (← required asBinary64? x) (← required asBinary64? y))

def Point.ofJson? : (levels : Nat) → Json → Option Point := ofDoubles? "x" "y" Point.mk

def Point.toJson (point : Point) : Json :=
  .record [("x", .ofBinary64 point.x), ("y", .ofBinary64 point.y)]

def Range.ofJson? : (levels : Nat) → Json → Option Range := ofDoubles? "lower" "upper" Range.mk

def Range.toJson (range : Range) : Json :=
  .record [("lower", .ofBinary64 range.lower), ("upper", .ofBinary64 range.upper)]

namespace Argument

inductive Shape where
  | scalar
  | sequence
  | geoPoint
  | geoRange
  deriving DecidableEq

def Shape.tag : Shape → String
  | scalar => "scalar"
  | sequence => "sequence"
  | geoPoint => "geo_point"
  | geoRange => "geo_range"

def Shape.ofTag? (tag : String) : Option Shape :=
  [scalar, sequence, geoPoint, geoRange].find? (·.tag = tag)

def ofContent? (levels : Nat) : Shape → Json → Option Argument
  | .scalar, content => scalar <$> Value.ofJson? levels content
  | .sequence, content => sequence <$> asList? levels Value.ofJson? content
  | .geoPoint, content => geoPoint <$> Point.ofJson? levels content
  | .geoRange, content => geoRange <$> Range.ofJson? levels content

/-- Whether the content comes before the tag, so that it has to be kept until its shape is
known. -/
def keepsContent : Json → Bool
  | .object members =>
    ((members.filterMap (·.1)).find? fun key => key = "t" || key = "v") == some "v"
  | _ => false

end Argument

/-- Whether a tree can be kept for later: within the nesting limit, with numbers and texts that
exist. -/
def Json.isSound : (levels : Nat) → Json → Bool
  | _, .null => true
  | _, .bool _ => true
  | _, .number n => (Json.Number.ofNumeral? n).isSome
  | _, .string text => text.isSome
  | levels + 1, .array items => items.all (Json.isSound levels)
  | levels + 1, .object members => members.all fun (key, value) =>
    key.isSome && Json.isSound levels value
  | 0, .array _ => false
  | 0, .object _ => false

namespace Argument

def ofJson? (levels : Nat) (json : Json) : Option Argument := do
  let levels ← enter? levels
  let [some tag, some content] ← fields? ["t", "v"] json | none
  let shape ← asName? levels Shape.ofTag? tag
  if keepsContent json && !content.isSound levels then none
  else ofContent? levels shape content

def shape : Argument → Shape
  | scalar _ => .scalar
  | sequence _ => .sequence
  | geoPoint _ => .geoPoint
  | geoRange _ => .geoRange

def contentToJson : Argument → Json
  | scalar value => value.toJson
  | sequence items => .array (items.map Value.toJson)
  | geoPoint point => point.toJson
  | geoRange range => range.toJson

def toJson (argument : Argument) : Json :=
  .record [("t", .string (some argument.shape.tag)), ("v", argument.contentToJson)]

end Argument

end FinderQuery
