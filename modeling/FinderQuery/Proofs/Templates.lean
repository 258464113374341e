import FinderQuery.Proofs.Binding

namespace FinderQuery

namespace Operator

def arity : Operator → Nat
  | isTrue | isFalse | isNull | isNotNull | notContaining | isEmpty | isNotEmpty => 0
  | between | within => 2
  | _ => 1

/-- How many points an operator has a place for among its variables. -/
def points (operator : Operator) : Nat := if operator.isGeo then 1 else 0

theorem points_le_one (operator : Operator) : operator.points ≤ 1 := by
  unfold points
  split <;> omega

theorem template?_eq_none_iff (operator : Operator) :
    operator.template? = none ↔
      operator = .isEmpty ∨ operator = .isNotEmpty ∨ operator = .notContaining := by
  cases operator <;> simp [template?]

variable {operator : Operator} {template : Template}

theorem arity_of_template? (found : operator.template? = some template) :
    operator.arity = template.arity := by
  cases operator <;> cases found <;> rfl

theorem isSource_of_template? (found : operator.template? = some template) :
    template.isSource = operator.isGeo := by
  cases operator <;> cases found <;> rfl

theorem arity_le_two (operator : Operator) : operator.arity ≤ 2 := by
  cases operator <;> decide

end Operator

namespace Template

open Clause

def chosen (template : Template) (donut : Bool) : Template := if donut then .donut else template

theorem render_text (template : Template) (context : ClauseContext) (first : Nat) :
    (template.render context first).text = Clause.render context first template.pieces := by
  unfold render
  split <;> rfl

theorem isSource_render (template : Template) (context : ClauseContext) (first : Nat) :
    (template.render context first).isSource = template.isSource := by
  unfold render
  split
  next source => simp [Fragment.isSource, source]
  next filter => simpa [Fragment.isSource] using filter

theorem render_ne_empty {template : Template} (context : ClauseContext) (first : Nat)
    (solid : ∃ content, Piece.text content ∈ template.pieces ∧ content ≠ "") :
    (template.render context first).text ≠ "" := by
  obtain ⟨content, member, nonempty⟩ := solid
  rw [render_text]
  intro empty
  have letters := congrArg String.toList empty
  rw [Clause.render, String.toList_join, String.toList_empty, List.flatMap_eq_nil_iff] at letters
  have blank := letters _ (List.mem_map_of_mem member)
  exact nonempty (String.toList_eq_nil_iff.mp blank)

theorem donut_solid : ∃ content, Piece.text content ∈ donut.pieces ∧ content ≠ "" :=
  ⟨"(FOR e IN ", by simp [donut, withoutDistance], by decide⟩

theorem solid_of_template? {operator : Operator} {template : Template}
    (found : operator.template? = some template) :
    ∃ content, Piece.text content ∈ template.pieces ∧ content ≠ "" := by
  cases operator <;> cases found <;>
    simp [comparison, constant, withoutDistance, or_and_right, exists_or]

end Template

end FinderQuery
