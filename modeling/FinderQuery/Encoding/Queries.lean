import FinderQuery.Encoding.Arguments
import FinderQuery.Encoding.Trees
import FinderQuery.Query

namespace FinderQuery

open Decoding (required withDefault)
open Json (enter? fields? orNull asList?)

structure CompileRequest where
  tree : PartTree
  arguments : List Argument := []
  sorting : Option Sorting := none

def CompileRequest.ofJson? (levels : Nat) (json : Json) : Option CompileRequest := do
  let levels ← enter? levels
  let [tree, arguments, sorting] ← fields? ["tree", "arguments", "sort"] json | none
  some
    { tree := ← required (PartTree.ofJson? levels) tree
      arguments := ← withDefault [] (asList? levels Argument.ofJson?) arguments
      sorting := ← withDefault none (orNull (Sorting.ofJson? levels)) sorting }

def BindVars.toJson (vars : BindVars) : Json :=
  .record (vars.entries.map fun (name, value) => (name, value.toJson))

def CompiledQuery.toJson (query : CompiledQuery) : Json :=
  .record [("query", .string (some query.text)), ("bind_vars", query.bindVars.toJson)]

end FinderQuery
