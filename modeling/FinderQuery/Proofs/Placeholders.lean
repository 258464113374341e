import FinderQuery.Proofs.Wording
import Mathlib.Data.List.TakeWhile

namespace FinderQuery

/-- The runs of digits behind the marks of a text, as long as they go. -/
def placeholders : List Char → List (List Char)
  | [] => []
  | char :: rest =>
    if char = '@' then rest.takeWhile Char.isDigit :: placeholders rest else placeholders rest

/-- Whether a text refers to the variable with a number. -/
def Mentions (text : String) (key : Nat) : Prop :=
  (keyText key).toList ∈ placeholders text.toList

instance (text : String) (key : Nat) : Decidable (Mentions text key) :=
  inferInstanceAs (Decidable (_ ∈ _))

def isApart (text : List Char) : Bool := text.head?.all (! ·.isDigit)

theorem isApart_append {front back : List Char} (first : isApart front) (second : isApart back) :
    isApart (front ++ back) := by
  cases front with
  | nil => exact second
  | cons char rest => exact first

theorem isApart_append_of_ne_nil {front : List Char} (filled : front ≠ []) (apart : isApart front)
    (back : List Char) : isApart (front ++ back) := by
  cases front with
  | nil => exact absurd rfl filled
  | cons char rest => exact apart

theorem takeWhile_isDigit_append (front : List Char) {back : List Char} (apart : isApart back) :
    (front ++ back).takeWhile Char.isDigit = front.takeWhile Char.isDigit := by
  -- A run that goes to the end of the front goes no further.
  have ended : back.takeWhile Char.isDigit = [] := by
    cases back with
    | nil => rfl
    | cons char rest => exact List.takeWhile_cons_of_neg (by simpa [isApart] using apart)
  rw [List.takeWhile_append]
  split
  next full =>
    have all := (List.takeWhile_prefix Char.isDigit (l := front)).eq_of_length full
    rw [ended, List.append_nil, all]
  · rfl

theorem placeholders_append (front : List Char) {back : List Char} (apart : isApart back) :
    placeholders (front ++ back) = placeholders front ++ placeholders back := by
  induction front with
  | nil => rfl
  | cons char rest ih =>
    simp only [List.cons_append, placeholders, ih, takeWhile_isDigit_append rest apart]
    split
    · rw [List.cons_append]
    · rfl

theorem placeholders_eq_nil_iff {text : List Char} : placeholders text = [] ↔ '@' ∉ text := by
  induction text with
  | nil => simp [placeholders]
  | cons char rest ih =>
    rw [placeholders, List.mem_cons, not_or, ← ih]
    split
    next marked => simp [marked]
    next plain => simp [Ne.symm plain]

theorem placeholders_unmarked_append {front : List Char} (unmarked : '@' ∉ front)
    (back : List Char) : placeholders (front ++ back) = placeholders back := by
  induction front with
  | nil => rfl
  | cons char rest ih =>
    rw [List.mem_cons, not_or] at unmarked
    rw [List.cons_append, placeholders, if_neg (Ne.symm unmarked.1), ih unmarked.2]

theorem toList_keyText (key : Nat) : (keyText key).toList = Nat.toDigits 10 key := by
  rw [keyText, Nat.toString_eq_repr, Nat.toList_repr]

theorem isDigit_of_mem_keyText {key : Nat} {char : Char} (member : char ∈ (keyText key).toList) :
    char.isDigit := by
  rw [toList_keyText] at member
  exact Nat.isDigit_of_mem_toDigits (by omega) (by omega) member

theorem keyText_injective {first second : Nat}
    (same : (keyText first).toList = (keyText second).toList) : first = second := by
  rw [toList_keyText, toList_keyText] at same
  rw [← Nat.ofDigitChars_ten_toDigits (n := first), same, Nat.ofDigitChars_ten_toDigits]

theorem placeholders_key (key : Nat) :
    placeholders ('@' :: (keyText key).toList) = [(keyText key).toList] := by
  have digits : ∀ char ∈ (keyText key).toList, char.isDigit := fun _ => isDigit_of_mem_keyText
  have unmarked : '@' ∉ (keyText key).toList := fun marked => absurd (digits _ marked) (by decide)
  rw [placeholders, if_pos rfl, placeholders_eq_nil_iff.mpr unmarked,
    List.takeWhile_eq_self_iff.mpr digits]

namespace Clause

def Piece.offset? : Piece → Option Nat
  | key offset => some offset
  | _ => none

def offsets (pieces : List Piece) : List Nat := pieces.filterMap Piece.offset?

def Piece.isBreak : Piece → Bool
  | text content => content.toList.head?.any (! ·.isDigit)
  | _ => false

/-- Whether keys are set off from what follows them, and no other piece brings a mark of its own. -/
def isSpaced : List Piece → Bool
  | [] => true
  | .key _ :: rest => rest.head?.all Piece.isBreak && isSpaced rest
  | .text content :: rest => !content.toList.contains '@' && isSpaced rest
  | _ :: rest => isSpaced rest

end Clause

structure ClauseContext.Unmarked (context : ClauseContext) : Prop where
  collection : '@' ∉ context.collection.toList
  property : '@' ∉ context.property.toList

namespace Clause

variable {context : ClauseContext} {first : Nat}

theorem render_cons (piece : Piece) (pieces : List Piece) :
    (render context first (piece :: pieces)).toList =
      (piece.render context first).toList ++ (render context first pieces).toList := by
  simp only [render, String.toList_join, List.map_cons, List.flatMap_cons]

theorem toList_render_key (offset : Nat) :
    (Piece.render context first (.key offset)).toList =
      '@' :: (keyText (first + offset)).toList := by
  rw [Piece.render, String.toList_append]
  rfl

theorem isApart_render {pieces : List Piece} (broken : pieces.head?.all Piece.isBreak) :
    isApart (render context first pieces).toList := by
  cases pieces with
  | nil => simp [isApart, render]
  | cons piece rest =>
    cases piece with
    | text content =>
      rw [List.head?_cons, Option.all_some, Piece.isBreak] at broken
      rw [isApart, render_cons, Piece.render]
      cases letters : content.toList with
      | nil => simp [letters] at broken
      | cons char others => simpa [letters] using broken
    | _ => cases broken

theorem isSpaced_cons {piece : Piece} {rest : List Piece} (spaced : isSpaced (piece :: rest)) :
    isSpaced rest ∧
      ((∃ offset, piece = .key offset ∧ rest.head?.all Piece.isBreak) ∨
        (piece.offset? = none ∧ ∀ context : ClauseContext, context.Unmarked →
          ∀ first, '@' ∉ (piece.render context first).toList)) := by
  cases piece with
  | key offset =>
    rw [isSpaced, Bool.and_eq_true] at spaced
    exact ⟨spaced.2, Or.inl ⟨offset, rfl, spaced.1⟩⟩
  | text content =>
    rw [isSpaced, Bool.and_eq_true] at spaced
    have plain : '@' ∉ content.toList := by simpa using spaced.1
    exact ⟨spaced.2, Or.inr ⟨rfl, fun _ _ _ => plain⟩⟩
  | property => exact ⟨spaced, Or.inr ⟨rfl, fun _ unmarked _ => unmarked.property⟩⟩
  | collection => exact ⟨spaced, Or.inr ⟨rfl, fun _ unmarked _ => unmarked.collection⟩⟩
  | ignoreCase =>
    refine ⟨spaced, Or.inr ⟨rfl, fun context _ _ => ?_⟩⟩
    rw [Piece.render]
    split <;> decide

theorem placeholders_render {pieces : List Piece} (unmarked : context.Unmarked)
    (spaced : isSpaced pieces) :
    placeholders (render context first pieces).toList =
      (offsets pieces).map fun offset => (keyText (first + offset)).toList := by
  induction pieces with
  | nil => rfl
  | cons piece rest ih =>
    obtain ⟨later, ⟨offset, rfl, broken⟩ | ⟨plain, none⟩⟩ := isSpaced_cons spaced
    · rw [render_cons, placeholders_append _ (isApart_render broken), toList_render_key,
        placeholders_key, ih later]
      rfl
    · rw [render_cons, placeholders_unmarked_append (none context unmarked first), ih later,
        offsets, offsets, List.filterMap_cons, plain]

end Clause

namespace Template

/-- How many variables a part refers to: one for each argument, and one more for each point and each
range that the operator has a place for. -/
def width (operator : Operator) (donut : Bool) : Nat :=
  if donut then 4 else operator.arity + operator.points

variable {operator : Operator} {template : Template}

theorem isSpaced_chosen (found : operator.template? = some template) (donut : Bool) :
    Clause.isSpaced (template.chosen donut).pieces := by
  cases donut with
  | false => cases operator <;> cases found <;> decide
  | true =>
    rw [chosen, if_pos rfl]
    decide

theorem mem_offsets_chosen_iff (found : operator.template? = some template) {donut : Bool}
    {offset : Nat} :
    offset ∈ Clause.offsets (template.chosen donut).pieces ↔ offset < width operator donut := by
  cases donut with
  | false =>
    cases operator <;> cases found <;>
      simp [chosen, Clause.offsets, comparison, constant, withoutDistance, Clause.Piece.offset?,
        width, Operator.arity, Operator.points, Operator.isGeo] <;> omega
  | true =>
    simp [chosen, Template.donut, withoutDistance, Clause.offsets, Clause.Piece.offset?, width]
    omega

theorem mentions_render_iff (found : operator.template? = some template) {donut : Bool}
    {context : ClauseContext} (unmarked : context.Unmarked) {first key : Nat} :
    Mentions ((template.chosen donut).render context first).text key ↔
      first ≤ key ∧ key < first + width operator donut := by
  rw [Mentions, render_text, Clause.placeholders_render unmarked (isSpaced_chosen found donut),
    List.mem_map]
  simp only [mem_offsets_chosen_iff found]
  apply Iff.intro
  · intro given
    rcases given with ⟨offset, small, same⟩
    have number := keyText_injective same
    omega
  · intro given
    rcases given with ⟨lower, upper⟩
    have number : first + (key - first) = key := by omega
    exact ⟨key - first, by omega, by rw [number]⟩

end Template

theorem placeholders_intercalate {separator : String} (unmarked : '@' ∉ separator.toList)
    (apart : isApart separator.toList) (filled : separator.toList ≠ []) (texts : List String) :
    placeholders (separator.intercalate texts).toList =
      texts.flatMap fun text => placeholders text.toList := by
  induction texts with
  | nil => rfl
  | cons text rest ih =>
    by_cases alone : rest = []
    · rw [alone, String.intercalate_singleton, List.flatMap_singleton]
    · have behind := isApart_append_of_ne_nil filled apart (separator.intercalate rest).toList
      rw [String.intercalate_cons_of_ne_nil alone, String.toList_append, String.toList_append,
        List.append_assoc, placeholders_append _ behind, placeholders_unmarked_append unmarked, ih,
        List.flatMap_cons]

namespace Sorting

def Unmarked (sorting : Option Sorting) : Prop :=
  ∀ keys ∈ sorting, ∀ key ∈ keys.keys, '@' ∉ key.property.toList

theorem clause_unmarked {sorting : Option Sorting} (unmarked : Unmarked sorting) :
    '@' ∉ (clause sorting).toList := by
  cases sorting with
  | none => decide
  | some sorting =>
    have each : ∀ text ∈ sorting.keys.map SortKey.render, placeholders text.toList = [] := by
      intro text member
      obtain ⟨key, listed, rfl⟩ := List.mem_map.mp member
      have name := unmarked sorting rfl key listed
      refine placeholders_eq_nil_iff.mpr ?_
      cases direction : key.direction <;>
        simp [SortKey.render, direction, Direction.keyword, name]
    have joined : '@' ∉ (", ".intercalate (sorting.keys.map SortKey.render)).toList := by
      rw [← placeholders_eq_nil_iff, placeholders_intercalate (by decide) (by decide) (by decide),
        List.flatMap_eq_nil_iff]
      exact each
    rw [clause]
    split
    · decide
    next filled =>
      rw [render, if_neg filled]
      simpa using joined

theorem isApart_clause (sorting : Option Sorting) : isApart (clause sorting).toList := by
  cases sorting with
  | none => rfl
  | some sorting =>
    rw [clause]
    split
    · rfl
    · rw [String.toList_append]
      exact isApart_append_of_ne_nil (by decide) (by decide) _

end Sorting

namespace Query

theorem isApart_filterClause (predicate : Option String) :
    isApart (filterClause predicate).toList := by
  unfold filterClause
  split
  · split
    · rfl
    · rw [String.toList_append]
      exact isApart_append_of_ne_nil (by decide) (by decide) _
  · rfl

theorem placeholders_filterClause (predicate : Option String) :
    placeholders (filterClause predicate).toList = placeholders (predicate.getD "").toList := by
  cases predicate with
  | none => rfl
  | some predicate =>
    rw [filterClause, Option.getD_some]
    split
    next empty => rw [String.isEmpty_iff.mp empty]
    · rw [String.toList_append, placeholders_unmarked_append (by decide)]

theorem isApart_tail (collection : String) (tree : PartTree) (sorting : Option Sorting) :
    isApart (tail collection tree sorting).toList := by
  have collected : isApart (collectClause tree).toList := by
    unfold collectClause
    split
    · split <;> decide
    · decide
  have limited : isApart (limitClause tree.maxResults).toList := by
    cases tree.maxResults with
    | none => rfl
    | some count =>
      rw [limitClause, String.toList_append]
      exact isApart_append_of_ne_nil (by decide) (by decide) _
  have acted : isApart (actionClause collection tree).toList := by
    unfold actionClause
    split
    · rw [String.toList_append]
      exact isApart_append_of_ne_nil (by decide) (by decide) _
    · split <;> decide
  simp only [tail, String.toList_append]
  exact isApart_append collected (isApart_append (Sorting.isApart_clause sorting)
    (isApart_append limited acted))

theorem tail_unmarked {collection : String} {sorting : Option Sorting}
    (unmarked : '@' ∉ collection.toList) (sorted : Sorting.Unmarked sorting) (tree : PartTree) :
    '@' ∉ (tail collection tree sorting).toList := by
  have collected : '@' ∉ (collectClause tree).toList := by
    unfold collectClause
    split
    · split <;> decide
    · decide
  have limited : '@' ∉ (limitClause tree.maxResults).toList := by
    cases tree.maxResults with
    | none => decide
    | some count =>
      have digits : '@' ∉ (keyText count.toNat).toList := fun marked =>
        absurd (isDigit_of_mem_keyText marked) (by decide)
      rw [limitClause, String.toList_append, List.mem_append, not_or]
      exact ⟨by decide, digits⟩
  have acted : '@' ∉ (actionClause collection tree).toList := by
    unfold actionClause
    split
    · rw [String.toList_append, List.mem_append, not_or]
      exact ⟨by decide, unmarked⟩
    · split <;> decide
  simp only [tail, String.toList_append, List.mem_append, not_or]
  exact ⟨collected, Sorting.clause_unmarked sorted, limited, acted⟩

theorem placeholders_assemble {collection : String} {sorting : Option Sorting}
    (unmarked : '@' ∉ collection.toList) (sorted : Sorting.Unmarked sorting) (selection : Selection)
    (tree : PartTree) :
    placeholders (assemble collection selection tree sorting).toList =
      placeholders (selection.source.getD "").toList ++
        placeholders (selection.predicate.getD "").toList := by
  have shape : (assemble collection selection tree sorting).toList =
      "FOR e IN ".toList ++ ((selection.source.getD collection).toList ++
        ((filterClause selection.predicate).toList ++ (tail collection tree sorting).toList)) := by
    simp only [assemble_eq, head, String.toList_append, List.append_assoc]
  have source : placeholders (selection.source.getD collection).toList =
      placeholders (selection.source.getD "").toList := by
    cases selection.source with
    | none => exact placeholders_eq_nil_iff.mpr unmarked
    | some source => rfl
  have behind := isApart_tail collection tree sorting
  rw [shape, placeholders_unmarked_append (by decide),
    placeholders_append _ (isApart_append (isApart_filterClause _) behind), source,
    placeholders_append _ behind, placeholders_filterClause,
    placeholders_eq_nil_iff.mpr (tail_unmarked unmarked sorted tree), List.append_nil]

end Query

namespace Outline

theorem placeholders_predicate (outline : Outline) :
    placeholders (outline.selection.predicate.getD "").toList =
      outline.alternatives.flatten.flatMap fun text => placeholders text.toList := by
  have conjunction := placeholders_intercalate (show '@' ∉ " AND ".toList by decide) (by decide)
    (by decide)
  have disjunction := placeholders_intercalate (show '@' ∉ " OR ".toList by decide) (by decide)
    (by decide)
  rw [selection]
  split
  next none =>
    rw [List.isEmpty_iff.mp none]
    rfl
  · rw [Option.getD_some, disjunction, List.flatMap_map, ← List.flatMap_id, List.flatMap_assoc]
    simp only [conjunction, id]

theorem mentions_assemble_iff {collection : String} {sorting : Option Sorting}
    (unmarked : '@' ∉ collection.toList) (sorted : Sorting.Unmarked sorting) (outline : Outline)
    (tree : PartTree) (key : Nat) :
    Mentions (Query.assemble collection outline.selection tree sorting) key ↔
      (∃ source ∈ outline.source, Mentions source key) ∨
        ∃ clause ∈ outline.alternatives.flatten, Mentions clause key := by
  have source : (keyText key).toList ∈ placeholders (outline.source.getD "").toList ↔
      ∃ source ∈ outline.source, Mentions source key := by
    cases outline.source with
    | none => simp [placeholders]
    | some source => simp [Mentions]
  rw [Mentions, Query.placeholders_assemble unmarked sorted, List.mem_append,
    placeholders_predicate, List.mem_flatMap]
  exact or_congr source Iff.rfl

end Outline

end FinderQuery
