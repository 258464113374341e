import FinderQuery.Proofs.Outline
import FinderQuery.Proofs.Placement

namespace FinderQuery

/-- Whether case does not count for a part: its request is not turned down, and its operator
compares strings. -/
def Part.caseIsIgnored (part : Part) (leaf : Leaf) : Bool :=
  part.caseRequest ≠ .never ∧ leaf.kind = .string ∧
    part.operator ∉ [.hasProperty, .isTrue, .isFalse, .isNull, .isNotNull, .near, .within]

theorem Part.caseIsIgnored_eq (part : Part) (leaf : Leaf) :
    part.caseIsIgnored leaf = part.ignoresCase leaf := by
  obtain ⟨property, operator, request⟩ := part
  obtain ⟨kind, collection⟩ := leaf
  rw [caseIsIgnored, ignoresCase, canIgnoreCase, Operator.supportsIgnoreCase]
  cases kind <;> cases operator <;> simp [PropertyKind.isLowerable, Operator.isCaseless]

/-- What a query compares for a field of the document: its value, or that in small letters, which of
a list are those of its items. -/
def Leaf.wording (leaf : Leaf) (field : String) (ignoreCase : Bool) : String :=
  match ignoreCase, leaf.collection with
  | false, _ => "e." ++ field
  | true, false => "LOWER(e." ++ field ++ ")"
  | true, true => "(FOR i IN TO_ARRAY(e." ++ field ++ ") RETURN LOWER(i))"

theorem Leaf.wording_eq (leaf : Leaf) (field : String) (ignoreCase : Bool) :
    leaf.wording field ignoreCase = leaf.reference field ignoreCase := by
  obtain ⟨kind, collection⟩ := leaf
  cases ignoreCase <;> cases collection <;> rfl

namespace Operator

def mode : Operator → PatternMode
  | startingWith => .startsWith
  | endingWith => .endsWith
  | _ => .exact

section

variable (context : ClauseContext) (key : Nat → String)

def compared (symbol : String) : Fragment :=
  .predicate (context.property ++ (" " ++ symbol ++ " ") ++ key 0)

def yielded (documents : String) : Fragment :=
  .source ("(FOR e IN " ++ documents ++ " RETURN UNSET(e, '_distance'))")

def disc (distance : Nat) : String :=
  "WITHIN(" ++ context.collection ++ ", " ++ key 0 ++ ", " ++ key 1 ++ ", " ++ key distance ++ ")"

/-- What an operator says in a query, with the names of its variables. -/
def wording? : Operator → Option Fragment
  | simpleProperty => some (compared context key "==")
  | negatingSimpleProperty => some (compared context key "!=")
  | isTrue => some (.predicate (context.property ++ " == true"))
  | isFalse => some (.predicate (context.property ++ " == false"))
  | isNull => some (.predicate (context.property ++ " == null"))
  | isNotNull => some (.predicate (context.property ++ " != null"))
  | hasProperty => some (.predicate ("HAS(e, " ++ key 0 ++ ")"))
  | before | lessThan => some (compared context key "<")
  | after | greaterThan => some (compared context key ">")
  | lessThanEqual => some (compared context key "<=")
  | greaterThanEqual => some (compared context key ">=")
  | between => some (.predicate
      (key 0 ++ " <= " ++ context.property ++ " AND " ++ context.property ++ " <= " ++ key 1))
  | like | startingWith | endingWith => some (compared context key "LIKE")
  | notLike => some (.predicate ("NOT(" ++ context.property ++ " LIKE " ++ key 0 ++ ")"))
  | regex => some (.predicate ("REGEX_TEST(" ++ context.property ++ ", " ++ key 0 ++ ", " ++
      (if context.ignoreCase then "true" else "false") ++ ")"))
  | isIn => some (compared context key "IN")
  | notIn => some (compared context key "NOT IN")
  | containing => some (.predicate (key 0 ++ " IN " ++ context.property))
  | near => some (yielded
      ("NEAR(" ++ context.collection ++ ", " ++ key 0 ++ ", " ++ key 1 ++ ")"))
  | within => some (yielded (disc context key 2))
  | notContaining | isEmpty | isNotEmpty => none

def donutWording : Fragment :=
  yielded ("MINUS(" ++ disc context key 3 ++ ", " ++ disc context key 2 ++ ")")

end

variable {operator : Operator} {template : Template}

theorem mode_eq_exact_iff :
    operator.mode = .exact ↔ ¬ (operator = .startingWith ∨ operator = .endingWith) := by
  cases operator <;> simp [mode]

theorem mode_of_template? (found : operator.template? = some template) :
    operator.mode = template.mode := by
  cases operator <;> cases found <;> rfl

end Operator

def variableName (key : Nat) : String := "@" ++ toString key

namespace Template

theorem render_donut (context : ClauseContext) (first : Nat) :
    donut.render context first =
      Operator.donutWording context fun offset => variableName (first + offset) := by
  simp [render, Clause.render, Clause.Piece.render, donut, withoutDistance, Operator.donutWording,
    Operator.yielded, Operator.disc, variableName, ← String.toList_inj]

/-- The template of an operator says what its wording does, and where there is no wording there is
no template. -/
theorem map_render_template? (operator : Operator) (context : ClauseContext) (first : Nat) :
    operator.template?.map (·.render context first) =
      operator.wording? context fun offset => variableName (first + offset) := by
  -- Each operator has a text of its own, so the two tables are compared row by row.
  cases operator <;>
    simp [Operator.template?, Operator.wording?, Operator.compared, Operator.yielded,
      Operator.disc, variableName, render, Clause.render, Clause.Piece.render, comparison, constant,
      withoutDistance, String.append_assoc]

end Template

def Outline.wording (collection : String) (outline : Outline) : List String :=
  ("FOR e IN " ++ outline.source.getD collection) ::
    if outline.alternatives = [] then []
    else ["FILTER " ++ " OR ".intercalate (outline.alternatives.map (" AND ".intercalate ·))]

def Selection.wording (collection : String) (selection : Selection) : List String :=
  ("FOR e IN " ++ selection.source.getD collection) ::
    (selection.predicate.filter (· ≠ "")).toList.map ("FILTER " ++ ·)

theorem Outline.wording_selection {outline : Outline}
    (filled : ∀ text ∈ outline.alternatives.map (" AND ".intercalate ·), text ≠ "")
    (collection : String) :
    outline.selection.wording collection = outline.wording collection := by
  rw [Selection.wording, wording, selection]
  cases alternatives : outline.alternatives with
  | nil => rfl
  | cons first rest =>
    rw [alternatives] at filled
    have text := Selection.intercalate_ne_empty " OR " (by simp) filled
    simpa using text

def SortKey.wording (key : SortKey) : String :=
  "e." ++ key.property ++ match key.direction with
    | .ascending => " ASC"
    | .descending => " DESC"

def Sorting.wording : Option Sorting → List String
  | some ⟨key :: keys⟩ => ["SORT " ++ ", ".intercalate ((key :: keys).map SortKey.wording)]
  | _ => []

def PartTree.wording (collection : String) (sorting : Option Sorting) (tree : PartTree) :
    List String :=
  (if tree.countProjection ∧ tree.distinct then ["COLLECT entity = e"] else []) ++
    (if tree.countProjection then ["COLLECT WITH COUNT INTO length"] else []) ++
    Sorting.wording sorting ++
    tree.maxResults.toList.map (fun count => "LIMIT " ++ toString count.toNat) ++
    [if tree.delete then "REMOVE e IN " ++ collection
      else if tree.countProjection then "RETURN length" else "RETURN e"]

namespace Query

def head (collection : String) (selection : Selection) : String :=
  "FOR e IN " ++ selection.source.getD collection ++ filterClause selection.predicate

def tail (collection : String) (tree : PartTree) (sorting : Option Sorting) : String :=
  collectClause tree ++ (Sorting.clause sorting ++
    (limitClause tree.maxResults ++ actionClause collection tree))

theorem assemble_eq (collection : String) (selection : Selection) (tree : PartTree)
    (sorting : Option Sorting) :
    assemble collection selection tree sorting =
      head collection selection ++ tail collection tree sorting := by
  unfold assemble head tail
  simp only [String.append_assoc]

def spaced (clauses : List String) : String := String.join (clauses.map (" " ++ ·))

@[simp] theorem spaced_nil : spaced [] = "" := rfl

@[simp] theorem spaced_append (front back : List String) :
    spaced (front ++ back) = spaced front ++ spaced back := by
  rw [spaced, List.map_append, String.join_append]
  rfl

@[simp] theorem spaced_singleton (clause : String) : spaced [clause] = " " ++ clause := by
  rw [spaced, List.map_singleton, String.join_cons, String.join_nil, String.append_empty]

theorem intercalate_blank (first : String) (rest : List String) :
    " ".intercalate (first :: rest) = first ++ spaced rest := by
  induction rest generalizing first with
  | nil => simp
  | cons second rest ih =>
    rw [String.intercalate_cons_of_ne_nil (List.cons_ne_nil _ _), ih,
      ← List.singleton_append (x := second), spaced_append, spaced_singleton]
    simp only [String.append_assoc]

theorem filterClause_eq (predicate : Option String) :
    filterClause predicate =
      spaced ((predicate.filter (· ≠ "")).toList.map ("FILTER " ++ ·)) := by
  cases predicate with
  | none => rfl
  | some text =>
    rw [filterClause]
    split
    next empty => rw [String.isEmpty_iff.mp empty, Option.filter_some_neg (by simp)]; rfl
    next filled =>
      rw [Option.filter_some_pos (by simpa using filled), Option.toList_some, List.map_singleton,
        spaced_singleton, ← String.append_assoc]
      rfl

theorem collectClause_eq (tree : PartTree) :
    collectClause tree =
      spaced (if tree.countProjection ∧ tree.distinct then ["COLLECT entity = e"] else []) ++
        spaced (if tree.countProjection then ["COLLECT WITH COUNT INTO length"] else []) := by
  unfold collectClause
  cases tree.countProjection <;> cases tree.distinct <;> decide

theorem clause_sorting (sorting : Option Sorting) :
    Sorting.clause sorting = spaced (Sorting.wording sorting) := by
  rcases sorting with _ | ⟨_ | ⟨key, keys⟩⟩
  · rfl
  · rfl
  · have render : SortKey.render = SortKey.wording := by
      funext ⟨property, direction⟩
      cases direction <;> simp [SortKey.render, SortKey.wording, Direction.keyword,
        ← String.toList_inj]
    rw [Sorting.wording, spaced_singleton, ← render]
    rfl

theorem limitClause_eq (limit : Option UInt64) :
    limitClause limit =
      spaced (limit.toList.map fun count => "LIMIT " ++ toString count.toNat) := by
  cases limit with
  | none => rfl
  | some count =>
    rw [Option.toList_some, List.map_singleton, spaced_singleton, ← String.append_assoc]
    rfl

theorem actionClause_eq (collection : String) (tree : PartTree) :
    actionClause collection tree =
      spaced [if tree.delete then "REMOVE e IN " ++ collection
        else if tree.countProjection then "RETURN length" else "RETURN e"] := by
  rw [spaced_singleton, actionClause]
  cases tree.delete <;> cases tree.countProjection <;> simp [← String.toList_inj]

theorem tail_eq_spaced (collection : String) (tree : PartTree) (sorting : Option Sorting) :
    tail collection tree sorting = spaced (tree.wording collection sorting) := by
  rw [tail, collectClause_eq, clause_sorting, limitClause_eq, actionClause_eq, PartTree.wording]
  simp only [spaced_append, String.append_assoc]

/-- The text of a query is its clauses with blanks between them. -/
theorem assemble_selection (collection : String) (selection : Selection) (tree : PartTree)
    (sorting : Option Sorting) :
    assemble collection selection tree sorting =
      " ".intercalate (selection.wording collection ++ tree.wording collection sorting) := by
  rw [assemble_eq, head, tail_eq_spaced, filterClause_eq, Selection.wording, List.cons_append,
    intercalate_blank, spaced_append, String.append_assoc]

end Query

end FinderQuery
