import FinderQuery.Proofs.Patterns

namespace FinderQuery

namespace Text

def lowerAt (before : List Char) (c : Char) (after : List Char) : List Char :=
  if c = 'Σ' then [lowerSigma before after] else lowerChar c

/-- Lowers a part of a text, given what stands before it, last character first, and behind it. -/
def lowerWithin : (before after part : List Char) → List Char
  | _, _, [] => []
  | before, after, c :: rest =>
    lowerAt before c (rest ++ after) ++ lowerWithin (c :: before) after rest

/-- Whether the last letter of a text is a capital sigma with a letter before it. -/
def closesInSigma (text : List Char) : Bool :=
  match text.reverse.dropWhile isCaseIgnorable with
  | c :: before => c = 'Σ' && opensWithCased before
  | [] => false

/-- Whether the first letter of a text is a capital sigma without a letter behind it. -/
def opensInLoneSigma (text : List Char) : Bool :=
  match text.dropWhile isCaseIgnorable with
  | c :: after => c = 'Σ' && !opensWithCased after
  | [] => false

theorem sigma_not_ignorable : isCaseIgnorable 'Σ' = false := by decide +kernel

theorem lowerAfter_append (before front back : List Char) :
    lowerAfter before (front ++ back) =
      lowerWithin before back front ++ lowerAfter (front.reverse ++ before) back := by
  induction front generalizing before with
  | nil => rfl
  | cons c front ih =>
    rw [List.cons_append, lowerAfter, ih, lowerWithin, lowerAt, List.append_assoc,
      List.reverse_cons, List.append_assoc, List.singleton_append]

theorem lowerWithin_nil (before text : List Char) :
    lowerWithin before [] text = lowerAfter before text := by
  have whole := lowerAfter_append before text []
  rw [List.append_nil, lowerAfter, List.append_nil] at whole
  exact whole.symm

theorem length_lowerAt (before after otherBefore otherAfter : List Char) (c : Char) :
    (lowerAt before c after).length = (lowerAt otherBefore c otherAfter).length := by
  unfold lowerAt
  split <;> rfl

theorem length_lowerWithin (before after otherBefore otherAfter text : List Char) :
    (lowerWithin before after text).length =
      (lowerWithin otherBefore otherAfter text).length := by
  induction text generalizing before otherBefore with
  | nil => rfl
  | cons c rest ih =>
    have first := length_lowerAt before (rest ++ after) otherBefore (rest ++ otherAfter) c
    have others := ih (c :: before) (c :: otherBefore)
    rw [lowerWithin, lowerWithin, List.length_append, List.length_append, first, others]

theorem lowerWithin_eq_iff (before after otherBefore otherAfter text : List Char) :
    lowerWithin before after text = lowerWithin otherBefore otherAfter text ↔
      ∀ front back, text = front ++ 'Σ' :: back →
        lowerSigma (front.reverse ++ before) (back ++ after) =
          lowerSigma (front.reverse ++ otherBefore) (back ++ otherAfter) := by
  induction text generalizing before otherBefore with
  | nil => simp [lowerWithin]
  | cons c rest ih =>
    have split : lowerWithin before after (c :: rest) =
          lowerWithin otherBefore otherAfter (c :: rest) ↔
        lowerAt before c (rest ++ after) = lowerAt otherBefore c (rest ++ otherAfter) ∧
          lowerWithin (c :: before) after rest =
            lowerWithin (c :: otherBefore) otherAfter rest := by
      rw [lowerWithin, lowerWithin]
      -- A character is lowered to equally many, whatever stands around it.
      exact ⟨fun same => List.append_inj same (length_lowerAt _ _ _ _ c),
        fun same => by rw [same.1, same.2]⟩
    rw [split, ih]
    apply Iff.intro
    · intro given front back same
      rcases given with ⟨first, others⟩
      cases front with
      | nil =>
        obtain ⟨rfl, rfl⟩ := List.cons.inj same
        simpa [lowerAt] using first
      | cons head front =>
        obtain ⟨rfl, rfl⟩ := List.cons.inj same
        simpa using others front back rfl
    · intro each
      apply And.intro
      · unfold lowerAt
        split
        next sigma => simpa using each [] rest (by rw [sigma]; rfl)
        · rfl
      · intro front back same
        subst same
        simpa using each (c :: front) back rfl

theorem lowerSigma_eq_iff {before after otherBefore otherAfter : List Char} :
    lowerSigma before after = lowerSigma otherBefore otherAfter ↔
      (opensWithCased before && !opensWithCased after) =
        (opensWithCased otherBefore && !opensWithCased otherAfter) := by
  unfold lowerSigma
  cases opensWithCased before && !opensWithCased after <;>
    cases opensWithCased otherBefore && !opensWithCased otherAfter <;> simp

theorem opensWithCased_append (front back : List Char) :
    opensWithCased (front ++ back) =
      if front.all isCaseIgnorable then opensWithCased back else opensWithCased front := by
  induction front with
  | nil => rfl
  | cons c front ih =>
    by_cases ignorable : isCaseIgnorable c
    · simpa [opensWithCased, ignorable] using ih
    · simp [opensWithCased, ignorable]

theorem opensWithCased_of_ignorable {text : List Char} (all : text.all isCaseIgnorable) :
    opensWithCased text = false := by
  have none := opensWithCased_append text []
  rw [List.append_nil, if_pos all] at none
  exact none

theorem dropWhile_eq_cons_iff {text rest : List Char} {c : Char}
    (stop : isCaseIgnorable c = false) :
    text.dropWhile isCaseIgnorable = c :: rest ↔
      ∃ front, text = front ++ c :: rest ∧ front.all isCaseIgnorable := by
  apply Iff.intro
  · intro found
    refine ⟨text.takeWhile isCaseIgnorable, ?_, List.all_takeWhile⟩
    rw [← found, List.takeWhile_append_dropWhile]
  · intro given
    rcases given with ⟨front, rfl, all⟩
    have none : front.dropWhile isCaseIgnorable = [] := by simpa using all
    rw [List.dropWhile_append, none, List.dropWhile_cons_of_neg (by simp [stop])]
    rfl

theorem closesInSigma_iff {text : List Char} :
    closesInSigma text ↔
      ∃ front back, text = front ++ 'Σ' :: back ∧ opensWithCased front.reverse ∧
        back.all isCaseIgnorable := by
  have found (before : List Char) : text.reverse.dropWhile isCaseIgnorable = 'Σ' :: before ↔ _ :=
    dropWhile_eq_cons_iff sigma_not_ignorable
  apply Iff.intro
  · intro closes
    unfold closesInSigma at closes
    split at closes
    next c before letters =>
      rw [Bool.and_eq_true, decide_eq_true_eq] at closes
      obtain ⟨rfl, cased⟩ := closes
      obtain ⟨behind, split, ignorable⟩ := (found before).mp letters
      refine ⟨before.reverse, behind.reverse, ?_, by rwa [List.reverse_reverse],
        by rwa [List.all_reverse]⟩
      rw [← List.reverse_reverse text, split]
      simp
    · cases closes
  · intro given
    rcases given with ⟨front, back, split, cased, ignorable⟩
    have letters := (found front.reverse).mpr
      ⟨back.reverse, by simp [split], by rwa [List.all_reverse]⟩
    simp [closesInSigma, letters, cased]

theorem opensInLoneSigma_iff {text : List Char} :
    opensInLoneSigma text ↔
      ∃ front back, text = front ++ 'Σ' :: back ∧ front.all isCaseIgnorable ∧
        ¬ opensWithCased back := by
  have found (after : List Char) : text.dropWhile isCaseIgnorable = 'Σ' :: after ↔ _ :=
    dropWhile_eq_cons_iff sigma_not_ignorable
  apply Iff.intro
  · intro opens
    unfold opensInLoneSigma at opens
    split at opens
    next c after letters =>
      rw [Bool.and_eq_true, decide_eq_true_eq] at opens
      obtain ⟨rfl, alone⟩ := opens
      obtain ⟨front, split, ignorable⟩ := (found after).mp letters
      exact ⟨front, after, split, ignorable, by simpa using alone⟩
    · cases opens
  · intro given
    rcases given with ⟨front, back, split, ignorable, alone⟩
    have letters := (found back).mpr ⟨front, split, ignorable⟩
    simp [opensInLoneSigma, letters, alone]

/-- A beginning is lowered as it is alone unless it closes in a sigma and its last word goes on. -/
theorem lowerWithin_beginning_iff (text after : List Char) :
    lowerWithin [] after text = lowerAfter [] text ↔
      ¬ (closesInSigma text ∧ opensWithCased after) := by
  rw [← lowerWithin_nil, lowerWithin_eq_iff, closesInSigma_iff]
  simp only [lowerSigma_eq_iff, List.append_nil, opensWithCased_append]
  apply Iff.intro
  · intro each given
    rcases given with ⟨⟨front, back, split, cased, ignorable⟩, goesOn⟩
    have same := each front back split
    rw [if_pos ignorable, opensWithCased_of_ignorable ignorable, cased, goesOn] at same
    cases same
  · intro kept front back split
    cases cased : opensWithCased front.reverse with
    | false => rfl
    | true =>
      cases ignorable : back.all isCaseIgnorable with
      | false => rfl
      | true =>
        have stops : opensWithCased after = false := by
          simpa using fun goesOn => kept ⟨⟨front, back, split, cased, ignorable⟩, goesOn⟩
        rw [if_pos rfl, stops, opensWithCased_of_ignorable ignorable]

theorem lowerWithin_end_iff (before text : List Char) :
    lowerWithin before [] text = lowerAfter [] text ↔
      ¬ (opensInLoneSigma text ∧ opensWithCased before) := by
  rw [← lowerWithin_nil [], lowerWithin_eq_iff, opensInLoneSigma_iff]
  simp only [lowerSigma_eq_iff, List.append_nil, opensWithCased_append, List.all_reverse]
  apply Iff.intro
  · intro each given
    rcases given with ⟨⟨front, back, split, ignorable, alone⟩, goesOn⟩
    have same := each front back split
    have none : opensWithCased front.reverse = false :=
      opensWithCased_of_ignorable (by rwa [List.all_reverse])
    rw [if_pos ignorable, none, goesOn, Bool.eq_false_iff.mpr alone] at same
    cases same
  · intro kept front back split
    cases ignorable : front.all isCaseIgnorable with
    | false => rfl
    | true =>
      have none : opensWithCased front.reverse = false :=
        opensWithCased_of_ignorable (by rwa [List.all_reverse])
      cases goesOn : opensWithCased back with
      | true => simp
      | false =>
        have stops : opensWithCased before = false := by
          simpa using fun cased =>
            kept ⟨⟨front, back, split, ignorable, by simp [goesOn]⟩, cased⟩
        rw [if_pos rfl, stops, none]

theorem lowered_prefix_iff (text behind : List Char) :
    lowerAfter [] text <+: lowerAfter [] (text ++ behind) ↔
      ¬ (closesInSigma text ∧ opensWithCased behind) := by
  have size := length_lowerWithin [] [] [] behind text
  rw [lowerWithin_nil] at size
  rw [lowerAfter_append, ← lowerWithin_beginning_iff]
  apply Iff.intro
  · intro front
    have same := List.prefix_of_prefix_length_le front (List.prefix_append _ _) (Nat.le_of_eq size)
    exact (same.eq_of_length size).symm
  · intro same
    rw [same]
    exact List.prefix_append _ _

theorem lowered_suffix_iff (before text : List Char) :
    lowerAfter [] text <:+ lowerAfter [] (before ++ text) ↔
      ¬ (opensInLoneSigma text ∧ opensWithCased before.reverse) := by
  have size := length_lowerWithin [] [] before.reverse [] text
  rw [lowerWithin_nil, lowerWithin_nil] at size
  rw [lowerAfter_append, List.append_nil, ← lowerWithin_end_iff, lowerWithin_nil]
  apply Iff.intro
  · intro back
    have same := List.suffix_of_suffix_length_le back (List.suffix_append _ _) (Nat.le_of_eq size)
    exact (same.eq_of_length size).symm
  · intro same
    rw [same]
    exact List.suffix_append _ _

end Text

open Argument

theorem PatternMode.like_startsWith_lowercase_iff (text behind : String) :
    Text.like (startsWith.pattern (Text.lowercase text)) (Text.lowercase (text ++ behind)) ↔
      ¬ (Text.closesInSigma text.toList ∧ Text.opensWithCased behind.toList) := by
  rw [like_startsWith, Text.toList_lowercase, Text.toList_lowercase, String.toList_append,
    Text.lowered_prefix_iff]

theorem PatternMode.like_endsWith_lowercase_iff (before text : String) :
    Text.like (endsWith.pattern (Text.lowercase text)) (Text.lowercase (before ++ text)) ↔
      ¬ (Text.opensInLoneSigma text.toList ∧ Text.opensWithCased before.toList.reverse) := by
  rw [like_endsWith, Text.toList_lowercase, Text.toList_lowercase, String.toList_append,
    Text.lowered_suffix_iff]

theorem Part.likeClause_lowered {part : Part} {property : Metadata.Property}
    (ignores : part.ignoresCase property.leaf) (single : property.leaf.collection = false)
    (key : Nat) :
    part.likeClause property key =
      .predicate ("LOWER(e." ++ property.field ++ ") LIKE @" ++
        keyText key) := by
  have text : property.leaf.reference property.field
        (part.ignoresCase property.leaf) ++ " LIKE @" ++ keyText key =
      "LOWER(e." ++ property.field ++ ") LIKE @" ++ keyText key := by
    rw [← String.toList_inj]
    simp [Leaf.reference, ignores, single]
  exact congrArg Fragment.predicate text

/-- A part that ignores case and asks for a beginning or an end still finds the texts that begin or
end with its argument letter for letter, unless a sigma at the cut is a word's last letter in one of
argument and text, and not in the other. -/
theorem Compile.part_keeps_match_iff (target : Compile.Target) {part : Part}
    {property : Metadata.Property}
    (known : target.metadata.property target.entity part.property = .ok property)
    (ignores : part.ignoresCase property.leaf) (single : property.leaf.collection = false)
    (text : String) (rest : List Argument) (vars : BindVars) :
    (part.operator = .startingWith → ∃ pattern,
      (Compile.part target part ⟨scalar (.string text) :: rest, vars⟩).result =
        .ok (.predicate ("LOWER(e." ++ property.field ++ ") LIKE @" ++
          keyText vars.size), ⟨rest, vars.push (.string pattern)⟩) ∧
      ∀ behind, Text.like pattern (Text.lowercase (text ++ behind)) ↔
        ¬ (Text.closesInSigma text.toList ∧ Text.opensWithCased behind.toList)) ∧
    (part.operator = .endingWith → ∃ pattern,
      (Compile.part target part ⟨scalar (.string text) :: rest, vars⟩).result =
        .ok (.predicate ("LOWER(e." ++ property.field ++ ") LIKE @" ++
          keyText vars.size), ⟨rest, vars.push (.string pattern)⟩) ∧
      ∀ before, Text.like pattern (Text.lowercase (before ++ text)) ↔
        ¬ (Text.opensInLoneSigma text.toList ∧ Text.opensWithCased before.toList.reverse)) := by
  have lowered : Text.lowercaseIf (part.ignoresCase property.leaf) text = Text.lowercase text := by
    rw [Text.lowercaseIf, if_pos ignores]
  rw [← Part.likeClause_lowered ignores single]
  apply And.intro
  · intro starting
    have template : part.operator.template? =
        some { Template.comparison "LIKE" with mode := .startsWith } := by
      rw [starting]
      rfl
    refine ⟨_, part_result_of_string target known template text rest vars, ?_⟩
    rw [lowered]
    exact PatternMode.like_startsWith_lowercase_iff text
  · intro ending
    have template : part.operator.template? =
        some { Template.comparison "LIKE" with mode := .endsWith } := by
      rw [ending]
      rfl
    refine ⟨_, part_result_of_string target known template text rest vars, ?_⟩
    rw [lowered]
    exact fun before => PatternMode.like_endsWith_lowercase_iff before text

def caselessNamePart (operator : Operator) : Part := ⟨⟨["name"]⟩, operator, .always⟩

theorem Compile.part_keeps_match_of_sigma :
    placeCatalog.metadata.property "Place" ⟨["name"]⟩ = .ok ⟨"name", { kind := .string }⟩ ∧
    (caselessNamePart .startingWith).ignoresCase { kind := .string } ∧
    ∃ pattern,
      (Compile.part ⟨placeCatalog, "Place", "places"⟩ (caselessNamePart .startingWith)
          ⟨[scalar (.string "ΑΣ")], .empty⟩).result =
        .ok (.predicate "LOWER(e.name) LIKE @0", ⟨[], BindVars.empty.push (.string pattern)⟩) ∧
      ∀ behind, Text.like pattern (Text.lowercase ("ΑΣ" ++ behind)) ↔
        ¬ (Text.closesInSigma "ΑΣ".toList ∧ Text.opensWithCased behind.toList) := by
  have known : placeCatalog.metadata.property "Place" (caselessNamePart .startingWith).property =
    .ok ⟨"name", { kind := .string }⟩ := rfl
  exact ⟨known, rfl, (part_keeps_match_iff ⟨placeCatalog, "Place", "places"⟩ known rfl rfl
    "ΑΣ" [] .empty).1 rfl⟩

/-- A sigma that ends a word in the argument and not in the stored text. -/
theorem Compile.not_all_matches_kept :
    ¬ ∀ (catalog : Catalog) (entity collection : String) (part : Part)
      (property : Metadata.Property) (text subject pattern : String) (rest : List Argument)
      (vars : BindVars) (clause : Fragment),
      catalog.metadata.property entity part.property = .ok property →
        part.operator = .startingWith → part.ignoresCase property.leaf →
          property.leaf.collection = false →
            (Compile.part ⟨catalog, entity, collection⟩ part
                ⟨scalar (.string text) :: rest, vars⟩).result =
              .ok (clause, ⟨rest, vars.push (.string pattern)⟩) →
              text.toList <+: subject.toList → Text.like pattern (Text.lowercase subject) := by
  intro all
  have kept := all placeCatalog "Place" "places" (caselessNamePart .startingWith)
    ⟨"name", { kind := .string }⟩ "ΑΣ" "ΑΣΑ" _ [] .empty _ rfl rfl rfl rfl
    (part_result_of_string ⟨placeCatalog, "Place", "places"⟩ rfl rfl "ΑΣ" [] .empty) (by decide)
  exact absurd kept (by decide +kernel)

end FinderQuery
