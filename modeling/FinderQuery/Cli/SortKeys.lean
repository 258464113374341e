import FinderQuery.Cli.Failure
import FinderQuery.Sorting

namespace FinderQuery

namespace Cli

def splitAtLast? (c : Char) : List Char → Option (List Char × List Char)
  | [] => none
  | head :: rest =>
    match splitAtLast? c rest with
    | some (before, after) => some (head :: before, after)
    | none => if head = c then some ([], rest) else none

def directionOfWord? : String → Option Direction
  | "asc" => some .ascending
  | "desc" => some .descending
  | _ => none

end Cli

open Cli (splitAtLast? directionOfWord?)

/-- Direction words may be in capital or small ASCII letters; without one the order is ascending. -/
def SortKey.parse (text : String) : Except Cli.Failure SortKey :=
  match splitAtLast? ':' text.toList with
  | none => .ok ⟨text, .ascending⟩
  | some (property, word) =>
    let word := String.ofList (word.map Char.toLower)
    match directionOfWord? word with
    | some direction => .ok ⟨String.ofList property, direction⟩
    | none => .error (.unknownDirection word)

def Sorting.parse (texts : List String) : Except Cli.Failure Sorting :=
  Sorting.mk <$> texts.mapM SortKey.parse

end FinderQuery
