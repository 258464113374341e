import FinderQuery.Proofs.Placeholders

namespace FinderQuery

namespace Text

def raised (shift : Nat) (digits : List Char) : List Char :=
  if digits.isEmpty then [] else (keyText (Nat.ofDigitChars 10 digits 0 + shift)).toList

/-- `within` tells that digits are still to be passed, for which others stand already. -/
def renumberFrom (shift : Nat) : (within : Bool) → List Char → List Char
  | _, [] => []
  | within, char :: rest =>
    if char = '@' then
      '@' :: (raised shift (rest.takeWhile Char.isDigit) ++ renumberFrom shift true rest)
    else if within && char.isDigit then renumberFrom shift true rest
    else char :: renumberFrom shift false rest

def renumber (shift : Nat) (text : String) : String :=
  String.ofList (renumberFrom shift false text.toList)

example : renumber 7 "@0 <= e.x1 AND e.x1 <= @13, a@b" = "@7 <= e.x1 AND e.x1 <= @20, a@b" := by
  decide

variable {shift : Nat}

theorem toList_renumber (shift : Nat) (text : String) :
    (renumber shift text).toList = renumberFrom shift false text.toList := String.toList_ofList

theorem renumberFrom_of_isApart {text : List Char} (apart : isApart text) :
    renumberFrom shift true text = renumberFrom shift false text := by
  cases text with
  | nil => rfl
  | cons char rest =>
    have none : char.isDigit = false := by simpa [isApart] using apart
    simp only [renumberFrom, none, Bool.and_false]

theorem renumberFrom_append (within : Bool) (front : List Char) {back : List Char}
    (apart : isApart back) :
    renumberFrom shift within (front ++ back) =
      renumberFrom shift within front ++ renumberFrom shift false back := by
  induction front generalizing within with
  | nil =>
    cases within with
    | false => rfl
    | true => exact renumberFrom_of_isApart apart
  | cons char rest ih =>
    simp only [List.cons_append, renumberFrom, ih, takeWhile_isDigit_append rest apart]
    split
    · rw [List.cons_append, List.append_assoc]
    · split
      · rfl
      · rfl

theorem renumberFrom_unmarked_append {front : List Char} (unmarked : '@' ∉ front)
    (back : List Char) :
    renumberFrom shift false (front ++ back) = front ++ renumberFrom shift false back := by
  induction front with
  | nil => rfl
  | cons char rest ih =>
    rw [List.mem_cons, not_or] at unmarked
    rw [List.cons_append, renumberFrom, if_neg (Ne.symm unmarked.1), ih unmarked.2]
    rfl

theorem renumberFrom_digits {digits : List Char} (all : ∀ char ∈ digits, char.isDigit) :
    renumberFrom shift true digits = [] := by
  induction digits with
  | nil => rfl
  | cons char rest ih =>
    rw [List.forall_mem_cons] at all
    have plain : char ≠ '@' := fun marked => absurd (marked ▸ all.1) (by decide)
    rw [renumberFrom, if_neg plain, all.1, Bool.and_self, if_pos rfl, ih all.2]

theorem raised_keyText (key : Nat) :
    raised shift (keyText key).toList = (keyText (key + shift)).toList := by
  rw [raised, toList_keyText, Nat.ofDigitChars_ten_toDigits, if_neg (by simp)]

theorem renumberFrom_key (key : Nat) :
    renumberFrom shift false ('@' :: (keyText key).toList) =
      '@' :: (keyText (key + shift)).toList := by
  have digits : ∀ char ∈ (keyText key).toList, char.isDigit := fun _ => isDigit_of_mem_keyText
  rw [renumberFrom, if_pos rfl, List.takeWhile_eq_self_iff.mpr digits, raised_keyText,
    renumberFrom_digits digits, List.append_nil]

theorem renumber_intercalate {separator : String} (unmarked : '@' ∉ separator.toList)
    (apart : isApart separator.toList) (filled : separator.toList ≠ []) (texts : List String) :
    renumber shift (separator.intercalate texts) =
      separator.intercalate (texts.map (renumber shift)) := by
  induction texts with
  | nil => rfl
  | cons text rest ih =>
    by_cases alone : rest = []
    · simp [alone]
    · have behind := isApart_append_of_ne_nil filled apart (separator.intercalate rest).toList
      rw [← String.toList_inj, toList_renumber, String.intercalate_cons_of_ne_nil alone,
        String.toList_append, String.toList_append, List.append_assoc,
        renumberFrom_append false _ behind, renumberFrom_unmarked_append unmarked,
        ← toList_renumber, ← toList_renumber, ih, List.map_cons,
        String.intercalate_cons_of_ne_nil (by simpa using alone), String.toList_append,
        String.toList_append, List.append_assoc]

end Text

namespace Clause

variable {context : ClauseContext} {first shift : Nat}

theorem render_of_offset?_eq_none {piece : Piece} (plain : piece.offset? = none)
    (first second : Nat) : piece.render context first = piece.render context second := by
  cases piece with
  | key offset => cases plain
  | _ => rfl

/-- The first variable of a part settles nothing of its clause but the numbers that it refers to. -/
theorem renumber_render {pieces : List Piece} (unmarked : context.Unmarked)
    (spaced : isSpaced pieces) :
    Text.renumber shift (render context first pieces) = render context (first + shift) pieces := by
  rw [← String.toList_inj, Text.toList_renumber]
  induction pieces with
  | nil => rfl
  | cons piece rest ih =>
    obtain ⟨later, ⟨offset, rfl, broken⟩ | ⟨plain, none⟩⟩ := isSpaced_cons spaced
    · have number : first + offset + shift = first + shift + offset := by omega
      rw [render_cons, Text.renumberFrom_append false _ (isApart_render broken),
        toList_render_key, Text.renumberFrom_key, ih later, render_cons, toList_render_key, number]
    · rw [render_cons, Text.renumberFrom_unmarked_append (none context unmarked first), ih later,
        render_cons, render_of_offset?_eq_none plain]

end Clause

namespace Fragment

def renumber (shift : Nat) : Fragment → Fragment
  | source text => source (Text.renumber shift text)
  | predicate text => predicate (Text.renumber shift text)

variable {shift : Nat}

theorem source?_renumber (fragment : Fragment) :
    (fragment.renumber shift).source? = fragment.source?.map (Text.renumber shift) := by
  cases fragment with
  | source text => rfl
  | predicate text => rfl

theorem predicate?_renumber (fragment : Fragment) :
    (fragment.renumber shift).predicate? = fragment.predicate?.map (Text.renumber shift) := by
  cases fragment with
  | source text => rfl
  | predicate text => rfl

end Fragment

theorem Template.renumber_render {template : Template} {context : ClauseContext}
    (unmarked : context.Unmarked) (spaced : Clause.isSpaced template.pieces) (first shift : Nat) :
    (template.render context first).renumber shift = template.render context (first + shift) := by
  have text : Text.renumber shift (Clause.render context first template.pieces) =
      Clause.render context (first + shift) template.pieces :=
    Clause.renumber_render unmarked spaced
  unfold render
  split
  · exact congrArg Fragment.source text
  · exact congrArg Fragment.predicate text

namespace Selection

def renumber (shift : Nat) (selection : Selection) : Selection where
  source := selection.source.map (Text.renumber shift)
  predicate := selection.predicate.map (Text.renumber shift)

def or (front back : Selection) : Selection where
  source := front.source.or back.source
  predicate := front.predicate.merge (· ++ " OR " ++ ·) back.predicate

end Selection

namespace Outline

theorem selection_append (front back : List (List Fragment)) :
    (ofFragments (front ++ back)).selection =
      (ofFragments front).selection.or (ofFragments back).selection := by
  have source : (ofFragments (front ++ back)).source =
      (ofFragments front).source.or (ofFragments back).source := by
    simp only [ofFragments, List.flatten_append, List.filterMap_append, List.head?_append]
  have alternatives : (ofFragments (front ++ back)).alternatives =
      (ofFragments front).alternatives ++ (ofFragments back).alternatives := by
    simp only [ofFragments, List.map_append, List.filter_append]
  rw [selection, source, alternatives, Selection.or, selection, selection]
  rcases (ofFragments front).alternatives with _ | ⟨first, others⟩
  · simp
  · rcases (ofFragments back).alternatives with _ | ⟨second, rest⟩
    · simp
    · have joined := String.intercalate_append_of_ne_nil (s := " OR ")
        (l := (first :: others).map (" AND ".intercalate ·))
        (m := (second :: rest).map (" AND ".intercalate ·)) (by simp) (by simp)
      rw [List.map_append, joined]
      rfl

theorem selection_renumber (shift : Nat) (groups : List (List Fragment)) :
    (ofFragments (groups.map (·.map (Fragment.renumber shift)))).selection =
      (ofFragments groups).selection.renumber shift := by
  have source : (ofFragments (groups.map (·.map (Fragment.renumber shift)))).source =
      (ofFragments groups).source.map (Text.renumber shift) := by
    simp only [ofFragments]
    rw [← List.map_flatten, List.filterMap_map, ← List.head?_map, List.map_filterMap]
    simp only [Function.comp_def, Fragment.source?_renumber]
  have predicates (group : List Fragment) :
      (group.map (Fragment.renumber shift)).filterMap Fragment.predicate? =
        (group.filterMap Fragment.predicate?).map (Text.renumber shift) := by
    rw [List.filterMap_map, List.map_filterMap]
    simp only [Function.comp_def, Fragment.predicate?_renumber]
  have alternatives : (ofFragments (groups.map (·.map (Fragment.renumber shift)))).alternatives =
      (ofFragments groups).alternatives.map (·.map (Text.renumber shift)) := by
    simp only [ofFragments, List.map_map, Function.comp_def, predicates, List.filter_map,
      List.isEmpty_map]
  have conjunction (texts : List String) : Text.renumber shift (" AND ".intercalate texts) =
      " AND ".intercalate (texts.map (Text.renumber shift)) :=
    Text.renumber_intercalate (by decide) (by decide) (by decide) texts
  have disjunction (texts : List String) : Text.renumber shift (" OR ".intercalate texts) =
      " OR ".intercalate (texts.map (Text.renumber shift)) :=
    Text.renumber_intercalate (by decide) (by decide) (by decide) texts
  rw [selection, source, alternatives, selection, Selection.renumber, List.isEmpty_map]
  split
  · rfl
  · simp only [Option.map_some, disjunction, List.map_map, Function.comp_def, conjunction]

end Outline

end FinderQuery
