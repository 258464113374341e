import FinderQuery.BindVars
import FinderQuery.Predicate.Tree
import FinderQuery.Selection
import FinderQuery.Sorting

namespace FinderQuery

structure CompiledQuery where
  text : String
  bindVars : BindVars

namespace Query

def filterClause : Option String → String
  | some predicate => if predicate.isEmpty then "" else " FILTER " ++ predicate
  | none => ""

/-- Counting documents; if they are to be distinct, counting them one by one first. -/
def collectClause (tree : PartTree) : String :=
  if tree.countProjection then
    if tree.distinct then " COLLECT entity = e COLLECT WITH COUNT INTO length"
    else " COLLECT WITH COUNT INTO length"
  else ""

def limitClause : Option UInt64 → String
  | some count => " LIMIT " ++ toString count.toNat
  | none => ""

def actionClause (collection : String) (tree : PartTree) : String :=
  if tree.delete then " REMOVE e IN " ++ collection
  else if tree.countProjection then " RETURN length"
  else " RETURN e"

def assemble (collection : String) (selection : Selection) (tree : PartTree)
    (sorting : Option Sorting) : String :=
  "FOR e IN " ++ selection.source.getD collection ++ filterClause selection.predicate
    ++ collectClause tree ++ Sorting.clause sorting ++ limitClause tree.maxResults
    ++ actionClause collection tree

end Query

end FinderQuery
