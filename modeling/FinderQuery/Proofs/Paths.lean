import FinderQuery.Proofs.Declarations
import Mathlib.Logic.Relation

namespace FinderQuery

namespace PropertyPath

/-- An empty name of a dotted text is left out, and one of the dots around it. -/
def DropsEmptyName (text shorter : String) : Prop :=
  ∃ front back, text = ".".intercalate (front ++ "" :: back) ∧
    shorter = ".".intercalate (front ++ back)

def DropsTo (text rest : String) : Prop :=
  Relation.ReflTransGen DropsEmptyName text rest ∧ IsGapless rest

theorem segments_parse_append (front back : String) :
    (parse (front ++ "." ++ back)).segments = (parse front).segments ++ (parse back).segments := by
  have split : (front ++ "." ++ back).toList = front.toList ++ '.' :: back.toList := by simp
  simp only [parse, split, List.splitOn_append_cons_self, List.filter_append, List.map_append]

theorem segments_parse_intercalate (names : List String) :
    (parse (".".intercalate names)).segments = names.flatMap fun name => (parse name).segments := by
  induction names with
  | nil => rfl
  | cons name names ih =>
    cases names with
    | nil => simp [String.intercalate_singleton]
    | cons next names =>
      rw [String.intercalate_cons_cons, segments_parse_append, ih]
      rfl

theorem parse_of_drops {text shorter : String} (drops : DropsEmptyName text shorter) :
    parse text = parse shorter := by
  obtain ⟨front, back, rfl, rfl⟩ := drops
  have none : (parse "").segments = [] := rfl
  have same : (parse (".".intercalate (front ++ "" :: back))).segments =
      (parse (".".intercalate (front ++ back))).segments := by
    rw [segments_parse_intercalate, segments_parse_intercalate, List.flatMap_append,
      List.flatMap_append, List.flatMap_cons, none, List.nil_append]
  exact congrArg mk same

theorem drops_filled (front names : List String) :
    Relation.ReflTransGen DropsEmptyName (".".intercalate (front ++ names))
      (".".intercalate (front ++ names.filter (· ≠ ""))) := by
  induction names generalizing front with
  | nil => exact .refl
  | cons name names ih =>
    by_cases empty : name = ""
    · subst empty
      exact .head ⟨front, names, rfl, rfl⟩ (by simpa using ih front)
    · have next := ih (front ++ [name])
      simpa [empty] using next

theorem drops_to_display (text : String) :
    Relation.ReflTransGen DropsEmptyName text (parse text).display := by
  have steps := drops_filled [] ((text.toList.splitOn '.').map String.ofList)
  have whole : ".".intercalate ((text.toList.splitOn '.').map String.ofList) = text := by
    rw [← String.toList_inj, String.toList_intercalate, List.map_map]
    simp [Function.comp_def]
  have filled : (fun piece : List Char => !piece.isEmpty) =
      ((fun name : String => decide (name ≠ "")) ∘ String.ofList) := by
    funext piece
    cases piece <;> simp
  rw [List.nil_append, List.nil_append, whole, List.filter_map] at steps
  rw [display, parse, filled]
  exact steps

/-- However empty names are dropped, what is left is the text of the path. -/
theorem dropsTo_iff {text rest : String} : DropsTo text rest ↔ rest = (parse text).display := by
  constructor
  · rintro ⟨steps, gapless⟩
    have same : parse text = parse rest := by
      clear gapless
      induction steps with
      | refl => rfl
      | tail _ step ih => exact ih.trans (parse_of_drops step)
    rw [same, display_parse_eq_iff.mpr gapless]
  · rintro rfl
    refine ⟨drops_to_display text, ?_⟩
    rw [← display_parse_eq_iff, parse_display (isCanonical_parse text)]

theorem parse_eq_parse_iff {first second : String} :
    parse first = parse second ↔ ∃ rest, DropsTo first rest ∧ DropsTo second rest := by
  simp only [dropsTo_iff, exists_eq_left]
  constructor
  · intro same
    rw [same]
  · intro same
    rw [← parse_display (isCanonical_parse first), same, parse_display (isCanonical_parse second)]

theorem parse_display_eq_iff {path : PropertyPath} :
    parse path.display = path ↔ path.IsCanonical := by
  constructor
  · intro same
    rw [← same]
    exact isCanonical_parse _
  · exact parse_display

/-- Reading a text leads to names that are not empty and hold no dot, and such paths are the ones
that come back from their text. So two texts are read as one path if they are the same text once
all empty names are dropped, and only then. -/
theorem canonical_paths_round_trip :
    (∀ text, (∀ segment ∈ (parse text).segments, segment ≠ "" ∧ '.' ∉ segment.toList) ∧
      parse (parse text).display = parse text) ∧
    (∀ segments, parse (display ⟨segments⟩) = ⟨segments⟩ ↔
      ∀ segment ∈ segments, segment ≠ "" ∧ '.' ∉ segment.toList) ∧
    ∀ first second, parse first = parse second ↔
      ∃ rest, DropsTo first rest ∧ DropsTo second rest :=
  ⟨fun text => ⟨isCanonical_parse text, parse_display (isCanonical_parse text)⟩,
    fun _ => parse_display_eq_iff, fun _ _ => parse_eq_parse_iff⟩

example : parse "..address..city." = parse "address.city" ∧
    parse (display ⟨["address.city", ""]⟩) = ⟨["address", "city"]⟩ := by
  decide +kernel

end PropertyPath

end FinderQuery
