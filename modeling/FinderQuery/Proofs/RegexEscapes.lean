import FinderQuery.Proofs.CaseContext
import FinderQuery.Proofs.GeoVariables

namespace FinderQuery

namespace Text

/-- Whether the character behind a text is escaped: the text ends in a backslash that is not itself
escaped. -/
def endsOpen (opened : Bool) (text : List Char) : Bool :=
  text.foldl (fun opened c => !opened && c = '\\') opened

@[simp] theorem endsOpen_nil (opened : Bool) : endsOpen opened [] = opened := rfl

@[simp] theorem endsOpen_cons (opened : Bool) (c : Char) (rest : List Char) :
    endsOpen opened (c :: rest) = endsOpen (!opened && c = '\\') rest := rfl

theorem endsOpen_append_singleton (opened : Bool) (front : List Char) (c : Char) :
    endsOpen opened (front ++ [c]) = (!endsOpen opened front && c = '\\') := by
  simp [endsOpen]

theorem endsOpen_iff {text : List Char} :
    endsOpen false text ↔ ∃ front, text = front ++ ['\\'] ∧ endsOpen false front = false := by
  rcases List.eq_nil_or_concat text with rfl | ⟨front, c, rfl⟩
  · simp
  · rw [List.concat_eq_append, endsOpen_append_singleton, Bool.and_eq_true, Bool.not_eq_true',
      decide_eq_true_eq]
    constructor
    · intro given
      obtain ⟨free, rfl⟩ := given
      exact ⟨front, rfl, free⟩
    · intro given
      obtain ⟨other, same, free⟩ := given
      obtain ⟨rfl, last⟩ := List.append_inj' same rfl
      exact ⟨free, List.singleton_inj.mp last⟩

structure IsEscape (pattern front : List Char) (c : Char) (back : List Char) : Prop where
  split : pattern = front ++ '\\' :: c :: back
  free : endsOpen false front = false

/-- Lowers the rest of a text as `lowerAfter` does, but keeps the letters that are escaped. -/
def lowerUnescaped (isLetter : Char → Bool) :
    (opened : Bool) → (before rest : List Char) → List Char
  | _, _, [] => []
  | opened, before, c :: rest =>
    (if opened && isLetter c then [c] else lowerAt before c rest) ++
      lowerUnescaped isLetter (!opened && c = '\\') (c :: before) rest

def keepEscapes (isLetter : Char → Bool) (pattern : String) : String :=
  String.ofList (lowerUnescaped isLetter false [] pattern.toList)

theorem head?_lowerAt_iff (before after : List Char) (c : Char) :
    (lowerAt before c after).head? = some c ↔ lowerChar c = [c] := by
  unfold lowerAt
  by_cases sigma : c = 'Σ'
  -- A sigma is changed in either form, and a dotted I becomes two characters.
  · subst sigma
    have changed : lowerChar 'Σ' ≠ ['Σ'] := by decide +kernel
    rw [if_pos rfl, iff_false_intro changed, iff_false, lowerSigma]
    split <;> decide
  · rw [if_neg sigma]
    by_cases dotted : c = '\u0130'
    · subst dotted
      decide
    · unfold lowerChar
      rw [if_neg dotted]
      split <;> simp

theorem lowerAt_ne_nil (before after : List Char) (c : Char) : lowerAt before c after ≠ [] := by
  unfold lowerAt lowerChar
  split
  · simp
  · split
    · simp
    · split <;> simp

theorem lowerAt_eq_self_iff (before after : List Char) (c : Char) :
    lowerAt before c after = [c] ↔ lowerChar c = [c] := by
  constructor
  · intro same
    rw [← head?_lowerAt_iff before after, same]
    rfl
  · intro kept
    unfold lowerAt
    split
    next sigma =>
      subst sigma
      exact absurd kept (by decide +kernel)
    · exact kept

theorem lowerAt_append_eq_iff (before after lowered kept : List Char) (c : Char) :
    lowerAt before c after ++ lowered = [c] ++ kept ↔ lowerChar c = [c] ∧ lowered = kept := by
  constructor
  · intro same
    have head : (lowerAt before c after).head? = some c := by
      rw [← List.head?_append_of_ne_nil _ (lowerAt_ne_nil before after c), same]
      rfl
    have letter := (head?_lowerAt_iff before after c).mp head
    rw [(lowerAt_eq_self_iff before after c).mpr letter] at same
    exact ⟨letter, List.append_cancel_left same⟩
  · intro given
    obtain ⟨letter, same⟩ := given
    rw [(lowerAt_eq_self_iff before after c).mpr letter, same]

theorem lowerAfter_eq_lowerUnescaped_iff (isLetter : Char → Bool) (opened : Bool)
    (before rest : List Char) :
    lowerAfter before rest = lowerUnescaped isLetter opened before rest ↔
      ∀ front c back, rest = front ++ c :: back → endsOpen opened front → isLetter c →
        lowerChar c = [c] := by
  -- Along the text it is known whether the next character is escaped.
  induction rest generalizing opened before with
  | nil => simp [lowerAfter, lowerUnescaped]
  | cons c rest ih =>
    have here : lowerAfter before (c :: rest) =
          lowerUnescaped isLetter opened before (c :: rest) ↔
        (opened → isLetter c → lowerChar c = [c]) ∧
          lowerAfter (c :: before) rest =
            lowerUnescaped isLetter (!opened && c = '\\') (c :: before) rest := by
      rw [lowerAfter, lowerUnescaped, ← lowerAt]
      by_cases escaped : opened && isLetter c
      · rw [if_pos escaped, lowerAt_append_eq_iff]
        rw [Bool.and_eq_true] at escaped
        simp only [escaped.1, escaped.2, true_implies]
      · rw [if_neg escaped, List.append_cancel_left_eq]
        rw [Bool.and_eq_true, not_and] at escaped
        exact (and_iff_right fun opens letter => absurd letter (escaped opens)).symm
    rw [here, ih]
    constructor
    · intro given front d back split opens letter
      obtain ⟨first, others⟩ := given
      cases front with
      | nil =>
        obtain ⟨rfl, rfl⟩ := List.cons.inj split
        exact first opens letter
      | cons head front =>
        obtain ⟨rfl, rfl⟩ := List.cons.inj split
        exact others front d back rfl opens letter
    · intro each
      refine ⟨fun opens letter => each [] c rest rfl opens letter, ?_⟩
      intro front d back split opens letter
      exact each (c :: front) d back (congrArg (c :: ·) split) opens letter

theorem lowercase_eq_keepEscapes_iff (isLetter : Char → Bool) (pattern : String) :
    lowercase pattern = keepEscapes isLetter pattern ↔
      ∀ front c back, IsEscape pattern.toList front c back → isLetter c → lowerChar c = [c] := by
  rw [lowercase, keepEscapes, String.ofList_inj, lowerAfter_eq_lowerUnescaped_iff]
  constructor
  · intro each front c back escape letter
    obtain ⟨split, free⟩ := escape
    have opens : endsOpen false (front ++ ['\\']) := endsOpen_iff.mpr ⟨front, rfl, free⟩
    exact each (front ++ ['\\']) c back (by simp [split]) opens letter
  · intro each front c back split opens letter
    obtain ⟨front, rfl, free⟩ := endsOpen_iff.mp opens
    exact each front c back ⟨by simp [split], free⟩ letter

theorem exists_lowered_escape {pattern : String} {front back : List Char} {c : Char}
    (escape : IsEscape pattern.toList front c back) :
    ∃ shown, (lowercase pattern).toList =
        lowerWithin [] ('\\' :: c :: back) front ++ '\\' :: shown ++
          lowerAfter (c :: '\\' :: front.reverse) back ∧
      (shown = [c] ↔ lowerChar c = [c]) := by
  have backslash : lowerAt front.reverse '\\' (c :: back) = ['\\'] :=
    (lowerAt_eq_self_iff _ _ _).mpr (by decide +kernel)
  refine ⟨lowerAt ('\\' :: front.reverse) c back, ?_, lowerAt_eq_self_iff _ _ c⟩
  rw [toList_lowercase, escape.split, lowerAfter_append, List.append_nil, lowerAfter, ← lowerAt,
    backslash, lowerAfter, ← lowerAt, List.append_assoc, List.singleton_append, List.cons_append]

end Text

open Argument

def Part.regexClause (part : Part) (property : Metadata.Property) (key : Nat) : Fragment :=
  .predicate ("REGEX_TEST(" ++
    property.leaf.reference property.field
      (part.ignoresCase property.leaf) ++
    ", @" ++ keyText key ++ ", " ++
    (if part.ignoresCase property.leaf then "true" else "false") ++ ")")

theorem Part.render_regex {template : Template} (found : Operator.regex.template? = some template)
    (target : Compile.Target) (part : Part) (property : Metadata.Property) (taken : List Argument)
    (first : Nat) :
    (template.chosen (isDonut .regex taken)).render (part.context target property) first =
      part.regexClause property first := by
  show template.render (part.context target property) first = _
  cases found
  refine congrArg Fragment.predicate ?_
  rw [← String.toList_inj]
  simp [Clause.render, Clause.Piece.render, Part.context, keyText]

section

variable {metadata : Metadata} {entity : String} {tree : PartTree} {arguments : List Argument}
  {sorting : Option Sorting} {query : CompiledQuery} {place : Placement}
  {property : Metadata.Property}

/-- In a query that compiles, a part that ignores case and tests with a regular expression binds the
expression lowered as any other text. Its escapes are kept, and the rest of it lowered, exactly if
lowering does not change their letters; each escape stays where it is, and is kept or not by its own
letter. -/
theorem regex_part_keeps_escapes_iff
    (run : (compile metadata entity tree arguments sorting).result = .ok query)
    (member : place ∈ placements [] tree.groups) (regex : place.part.operator = .regex)
    (known : metadata.property entity place.part.property = .ok property)
    (ignores : place.part.ignoresCase property.leaf) :
    ∃ collection visit, metadata.collectionName entity = .ok collection ∧
      Compile.visit ⟨metadata, entity, collection⟩ arguments place = .ok visit ∧
      visit.fragment = place.part.regexClause property visit.first ∧
      ∀ pattern, visit.taken = [scalar (.string pattern)] →
        visit.after.nextKey = visit.first + 1 ∧
        query.bindVars.get? (keyText visit.first) = some (.string (Text.lowercase pattern)) ∧
        (∀ isLetter, Text.lowercase pattern = Text.keepEscapes isLetter pattern ↔
          ∀ front c back, Text.IsEscape pattern.toList front c back → isLetter c →
            Text.lowerChar c = [c]) ∧
        ∀ front c back, Text.IsEscape pattern.toList front c back →
          ∃ shown, (Text.lowercase pattern).toList =
              Text.lowerWithin [] ('\\' :: c :: back) front ++ '\\' :: shown ++
                Text.lowerAfter (c :: '\\' :: front.reverse) back ∧
            (shown = [c] ↔ Text.lowerChar c = [c]) := by
  obtain ⟨collection, found, template, visit, registered, again, chosen, visited, fragment, -, -,
    after, held⟩ := Compile.exists_rendered_visit run member
  have same : found = property := Except.ok.inj (again.symm.trans known)
  subst same
  rw [regex] at chosen fragment
  have clause : visit.fragment = place.part.regexClause found visit.first :=
    fragment.trans (Part.render_regex chosen _ _ _ _ _)
  refine ⟨collection, visit, registered, visited, clause, ?_⟩
  intro pattern single
  have bound : query.bindVars.get? (keyText visit.first) =
      some (.string (Text.lowercase pattern)) := by
    have lowered : (place.part.request found.leaf).valuesOf (scalar (.string pattern)) =
        [.string (Text.lowercase pattern)] := by
      rw [BindRequest.valuesOf_string, Part.request_ignoreCase, Text.lowercaseIf, if_pos ignores,
        Part.request, regex]
      rfl
    rw [single, List.flatMap_singleton, lowered] at held
    exact held 0 _ rfl
  rw [single] at after
  exact ⟨after, bound, fun isLetter => Text.lowercase_eq_keepEscapes_iff isLetter pattern,
    fun front c back escape => Text.exists_lowered_escape escape⟩

end

def regexTree : PartTree where
  groups := [[placePart "location" .near, caselessNamePart .regex]]

def regexPlacement : Placement where
  groupsBefore := []
  partsBefore := [placePart "location" .near]
  part := caselessNamePart .regex

/-- The backslash before the capital letter is itself escaped. -/
def digitPattern : String := "^J\\\\D\\d"

def regexArguments : List Argument := [geoPoint origin, scalar (.string digitPattern)]

def regexQuery : CompiledQuery where
  text :=
    "FOR e IN (FOR e IN NEAR(places, @0, @1) RETURN UNSET(e, '_distance')) " ++
      "FILTER REGEX_TEST(LOWER(e.name), @2, true) RETURN e"
  bindVars := .ofValues [.float origin.x, .float origin.y, .string "^j\\\\d\\d"]

theorem digit_escape_is_kept :
    (compile placeCatalog "Place" regexTree regexArguments none).result = .ok regexQuery ∧
    regexPlacement ∈ placements [] regexTree.groups ∧
    regexPlacement.part.operator = .regex ∧
    placeCatalog.metadata.property "Place" regexPlacement.part.property =
      .ok ⟨"name", { kind := .string }⟩ ∧
    regexPlacement.part.ignoresCase { kind := .string } ∧
    Text.IsEscape digitPattern.toList "^J\\\\D".toList 'd' [] ∧
    ∀ front c back, Text.IsEscape digitPattern.toList front c back → c.isAlpha →
      Text.lowerChar c = [c] := by
  have run : (compile placeCatalog "Place" regexTree regexArguments none).result =
      .ok regexQuery := by exact rfl
  have member : regexPlacement ∈ placements [] regexTree.groups :=
    List.mem_cons_of_mem _ List.mem_cons_self
  obtain ⟨collection, visit, registered, visited, -, bound⟩ :=
    regex_part_keeps_escapes_iff run member rfl rfl rfl
  cases registered
  have taken : visit.taken = [scalar (.string digitPattern)] := by
    cases visited
    rfl
  obtain ⟨-, -, kept, -⟩ := bound digitPattern taken
  have same : Text.lowercase digitPattern = Text.keepEscapes Char.isAlpha digitPattern := by
    decide +kernel
  exact ⟨run, member, rfl, rfl, rfl, ⟨rfl, rfl⟩, (kept Char.isAlpha).mp same⟩

/-- The escape for what is no digit turns into the one for digits. -/
theorem not_all_escapes_kept :
    ¬ ∀ (catalog : Catalog) (entity : String) (tree : PartTree) (arguments : List Argument)
      (sorting : Option Sorting) (query : CompiledQuery),
      (compile catalog entity tree arguments sorting).result = .ok query →
        ∀ place ∈ placements [] tree.groups, place.part.operator = .regex →
          ∀ collection property visit pattern, catalog.collectionName entity = .ok collection →
            catalog.metadata.property entity place.part.property = .ok property →
            place.part.ignoresCase property.leaf →
            Compile.visit ⟨catalog, entity, collection⟩ arguments place = .ok visit →
            visit.taken = [scalar (.string pattern)] →
              query.bindVars.get? (keyText visit.first) =
                some (.string (Text.keepEscapes Char.isAlpha pattern)) := by
  intro all
  have kept : some (Value.string "^j\\d") =
      some (.string (Text.keepEscapes Char.isAlpha "^J\\D")) :=
    all placeCatalog "Place" { groups := [[caselessNamePart .regex]] } [scalar (.string "^J\\D")]
      none ⟨"FOR e IN places FILTER REGEX_TEST(LOWER(e.name), @0, true) RETURN e",
        .ofValues [.string "^j\\d"]⟩
      rfl ⟨[], [], caselessNamePart .regex⟩ List.mem_cons_self rfl "places"
      ⟨"name", { kind := .string }⟩ ⟨⟨[scalar (.string "^J\\D")], .empty⟩, _, ⟨[], _⟩⟩ "^J\\D"
      rfl rfl rfl rfl rfl
  have same : "^j\\d" = Text.keepEscapes Char.isAlpha "^J\\D" :=
    Value.string.inj (Option.some.inj kept)
  exact absurd same (by decide +kernel)

end FinderQuery
