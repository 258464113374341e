import FinderQuery.Sorting

namespace FinderQuery

theorem Direction.eq_of_keyword_suffix {first second : Direction} {text : List Char}
    (endsFirst : first.keyword.toList <:+ text) (endsSecond : second.keyword.toList <:+ text) :
    first = second := by
  have apart : ∀ shorter longer : Direction,
      shorter.keyword.toList <:+ longer.keyword.toList → shorter = longer := by
    rintro (_ | _) (_ | _) <;> decide
  rcases List.suffix_or_suffix_of_suffix endsFirst endsSecond with inside | inside
  · exact apart first second inside
  · exact (apart second first inside).symm

namespace SortKey

theorem keyword_suffix_render (key : SortKey) :
    key.direction.keyword.toList <:+ key.render.toList := by
  rw [render, String.toList_append]
  exact List.suffix_append _ _

theorem render_injective : Function.Injective render := by
  intro first second same
  have direction : first.direction = second.direction := by
    refine Direction.eq_of_keyword_suffix (keyword_suffix_render first) ?_
    rw [same]
    exact keyword_suffix_render second
  -- Behind the same direction, the rest of a key is its property between fixed texts.
  have property : first.property = second.property := by
    unfold render at same
    rw [direction] at same
    simpa using same
  cases first
  cases second
  cases direction
  cases property
  rfl

theorem comma_not_mem_render {key : SortKey} (plain : ',' ∉ key.property.toList) :
    ',' ∉ key.render.toList := by
  have keyword : ',' ∉ key.direction.keyword.toList := by
    cases key.direction <;> decide
  simp [render, plain, keyword]

end SortKey

namespace Sorting

def keysOf (sorting : Option Sorting) : List SortKey := (sorting.getD unsorted).keys

def LacksCommas (keys : List SortKey) : Prop := ∀ key ∈ keys, ',' ∉ key.property.toList

instance (keys : List SortKey) : Decidable (LacksCommas keys) :=
  inferInstanceAs (Decidable (∀ key ∈ keys, _))

theorem blank_append_intercalate {texts : List String} (filled : texts ≠ []) :
    " " ++ ", ".intercalate texts = ",".intercalate (texts.map (" " ++ ·)) := by
  induction texts with
  | nil => exact absurd rfl filled
  | cons text rest ih =>
    by_cases alone : rest = []
    · rw [alone, List.map_singleton, String.intercalate_singleton, String.intercalate_singleton]
    · have spaced : rest.map (" " ++ ·) ≠ [] := by simpa using alone
      have separator : ", " = "," ++ " " := rfl
      rw [List.map_cons, String.intercalate_cons_of_ne_nil alone,
        String.intercalate_cons_of_ne_nil spaced, ← ih alone, separator]
      simp only [String.append_assoc]

theorem splitOn_intercalate_keys {keys : List SortKey} (filled : keys ≠ [])
    (plain : LacksCommas keys) :
    (" " ++ ", ".intercalate (keys.map SortKey.render)).toList.splitOn ',' =
      keys.map fun key => ' ' :: key.render.toList := by
  have pieces : (keys.map fun key => ' ' :: key.render.toList) ≠ [] := by simpa using filled
  have apart : ∀ piece ∈ keys.map fun key => ' ' :: key.render.toList, ',' ∉ piece := by
    rw [List.forall_mem_map]
    intro key member
    simpa using SortKey.comma_not_mem_render (plain key member)
  rw [blank_append_intercalate (by simpa using filled), String.toList_intercalate,
    ← List.splitOn_intercalate ',' apart pieces]
  simp [Function.comp_def]

theorem eq_of_intercalate_keys_eq {first second : List SortKey}
    (firstFilled : first ≠ []) (secondFilled : second ≠ [])
    (firstPlain : LacksCommas first) (secondPlain : LacksCommas second)
    (same : ", ".intercalate (first.map SortKey.render) =
      ", ".intercalate (second.map SortKey.render)) : first = second := by
  have pieces : (first.map fun key => ' ' :: key.render.toList) =
      second.map fun key => ' ' :: key.render.toList := by
    rw [← splitOn_intercalate_keys firstFilled firstPlain, same,
      splitOn_intercalate_keys secondFilled secondPlain]
  refine (List.map_inj_right ?_).mp pieces
  intro key other equal
  exact SortKey.render_injective (String.toList_injective (List.cons.inj equal).2)

theorem clause_eq (sorting : Option Sorting) :
    clause sorting = if keysOf sorting = [] then "" else
      " SORT " ++ ", ".intercalate ((keysOf sorting).map SortKey.render) := by
  rcases sorting with _ | ⟨_ | ⟨key, keys⟩⟩
  · rfl
  · rfl
  · show " " ++ ("SORT " ++ _) = " SORT " ++ _
    rw [← String.append_assoc]
    rfl

theorem clause_eq_empty_iff {sorting : Option Sorting} :
    clause sorting = "" ↔ keysOf sorting = [] := by
  rw [clause_eq]
  split
  next empty => simp [empty]
  next filled => simp [filled]

/-- As long as no property has a comma, two clauses are the same text exactly if they are for the
same keys in the same order and with the same directions. A comma in a property can pass for one
between two keys. -/
theorem clause_eq_clause_iff {first second : Option Sorting}
    (firstPlain : LacksCommas (keysOf first)) (secondPlain : LacksCommas (keysOf second)) :
    clause first = clause second ↔ keysOf first = keysOf second := by
  constructor
  · intro same
    have together : keysOf first = [] ↔ keysOf second = [] := by
      rw [← clause_eq_empty_iff, same, clause_eq_empty_iff]
    by_cases empty : keysOf first = []
    · rw [empty, together.mp empty]
    · have filled : keysOf second ≠ [] := fun none => empty (together.mpr none)
      rw [clause_eq, clause_eq, if_neg empty, if_neg filled] at same
      have joined := (String.append_right_inj _).mp same
      exact eq_of_intercalate_keys_eq empty filled firstPlain secondPlain joined
  · intro same
    rw [clause_eq, clause_eq, same]

example : clause (some ⟨[⟨"age ASC, e.name", .descending⟩]⟩) =
    clause (some ⟨[⟨"age", .ascending⟩, ⟨"name", .descending⟩]⟩) := by
  decide

def byDirectionWord : Option Sorting :=
  some ⟨[⟨"age DESC", .ascending⟩, ⟨"name", .descending⟩]⟩

def byDirectedAge : Option Sorting :=
  some ⟨[⟨"age", .descending⟩, ⟨"ASC e.name", .descending⟩]⟩

/-- The words are the same, and only the place of the comma tells which of them are directions. -/
theorem directions_among_words_told_apart :
    LacksCommas (keysOf byDirectionWord) ∧ LacksCommas (keysOf byDirectedAge) ∧
    clause byDirectionWord ≠ clause byDirectedAge ∧ clause none = clause (some unsorted) := by
  have worded : LacksCommas (keysOf byDirectionWord) := by decide
  have directed : LacksCommas (keysOf byDirectedAge) := by decide
  have missing : LacksCommas (keysOf none) := by decide
  have keyless : LacksCommas (keysOf (some unsorted)) := by decide
  refine ⟨worded, directed, fun same => ?_, (clause_eq_clause_iff missing keyless).mpr rfl⟩
  have keys := (clause_eq_clause_iff worded directed).mp same
  exact absurd keys (by decide)

end Sorting

end FinderQuery
