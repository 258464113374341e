import FinderQuery.Json.Number
import FinderQuery.Predicate.Tree
import FinderQuery.Sorting

namespace FinderQuery

open Decoding (required withDefault)
open Json (enter? fields? orNull asList? asName? asString? asBool? asUInt64?)

def PropertyPath.ofJson? (json : Json) : Option PropertyPath :=
  PropertyPath.parse <$> asString? json

def PropertyPath.toJson (path : PropertyPath) : Json := .string (some path.display)

def Operator.ofJson? (levels : Nat) (json : Json) : Option Operator :=
  asName? levels Operator.ofName? json

def Operator.toJson (operator : Operator) : Json := .string (some operator.name)

def CaseRequest.ofJson? (levels : Nat) (json : Json) : Option CaseRequest :=
  asName? levels CaseRequest.ofName? json

def CaseRequest.toJson (request : CaseRequest) : Json := .string (some request.name)

def Part.ofJson? (levels : Nat) (json : Json) : Option Part := do
  let levels ← enter? levels
  let [property, operator, caseRequest] ← fields? ["property", "operator", "ignore_case"] json
    | none
  some
    { property := ← required PropertyPath.ofJson? property
      operator := ← required (Operator.ofJson? levels) operator
      caseRequest := ← withDefault .never (CaseRequest.ofJson? levels) caseRequest }

def Part.toJson (part : Part) : Json :=
  .record
    [("property", part.property.toJson), ("operator", part.operator.toJson),
      ("ignore_case", part.caseRequest.toJson)]

def PartTree.ofJson? (levels : Nat) (json : Json) : Option PartTree := do
  let levels ← enter? levels
  let [groups, distinct, countProjection, delete, maxResults] ←
      fields? ["groups", "distinct", "count_projection", "delete", "max_results"] json
    | none
  some
    { groups := ← withDefault [] (asList? levels (asList? · Part.ofJson?)) groups
      distinct := ← withDefault false asBool? distinct
      countProjection := ← withDefault false asBool? countProjection
      delete := ← withDefault false asBool? delete
      maxResults := ← withDefault none (orNull asUInt64?) maxResults }

def PartTree.toJson (tree : PartTree) : Json :=
  .record
    [("groups", .array (tree.groups.map fun group => .array (group.map Part.toJson))),
      ("distinct", .bool tree.distinct),
      ("count_projection", .bool tree.countProjection),
      ("delete", .bool tree.delete),
      ("max_results", (tree.maxResults.map fun count => Json.ofNat count.toNat).getD .null)]

def Direction.ofJson? (levels : Nat) (json : Json) : Option Direction :=
  asName? levels Direction.ofName? json

def Direction.toJson (direction : Direction) : Json := .string (some direction.keyword)

def SortKey.ofJson? (levels : Nat) (json : Json) : Option SortKey := do
  let levels ← enter? levels
  let [property, direction] ← fields? ["property", "direction"] json | none
  some
    { property := ← required asString? property
      direction := ← withDefault .ascending (Direction.ofJson? levels) direction }

def SortKey.toJson (key : SortKey) : Json :=
  .record [("property", .string (some key.property)), ("direction", key.direction.toJson)]

def Sorting.ofJson? (levels : Nat) (json : Json) : Option Sorting :=
  Sorting.mk <$> asList? levels SortKey.ofJson? json

def Sorting.toJson (sorting : Sorting) : Json := .array (sorting.keys.map SortKey.toJson)

end FinderQuery
