import FinderQuery.Catalog

namespace FinderQuery

def Operator.isCaseless : Operator → Bool
  | .hasProperty | .isTrue | .isFalse | .isNull | .isNotNull | .near | .within => true
  | _ => false

def Operator.supportsIgnoreCase (operator : Operator) : Bool := !operator.isCaseless

def canIgnoreCase (operator : Operator) (leaf : Leaf) : Bool :=
  leaf.kind.isLowerable && operator.supportsIgnoreCase

theorem not_canIgnoreCase_iff {operator : Operator} {leaf : Leaf} :
    canIgnoreCase operator leaf = false ↔ leaf.kind ≠ .string ∨ operator.isCaseless := by
  obtain ⟨kind, collection⟩ := leaf
  cases kind <;> simp [canIgnoreCase, PropertyKind.isLowerable, Operator.supportsIgnoreCase]

def Part.ignoresCase (part : Part) (leaf : Leaf) : Bool :=
  part.caseRequest ≠ .never && canIgnoreCase part.operator leaf

def Part.requestIsMeaningless (part : Part) (leaf : Leaf) : Bool :=
  part.caseRequest = .always && !canIgnoreCase part.operator leaf

theorem Part.requestIsMeaningless_iff {part : Part} {leaf : Leaf} :
    part.requestIsMeaningless leaf ↔
      part.caseRequest = .always ∧ (leaf.kind ≠ .string ∨ part.operator.isCaseless) := by
  rw [← not_canIgnoreCase_iff]
  simp [requestIsMeaningless]

def Leaf.reference (leaf : Leaf) (field : String) (ignoreCase : Bool) : String :=
  if ignoreCase then
    if leaf.collection then "(FOR i IN TO_ARRAY(e." ++ field ++ ") RETURN LOWER(i))"
    else "LOWER(e." ++ field ++ ")"
  else "e." ++ field

end FinderQuery
