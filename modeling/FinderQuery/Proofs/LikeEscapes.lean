import FinderQuery.Proofs.RegexEscapes

namespace FinderQuery

namespace Text

theorem ne_backslash_of_plain {c : Char} (plain : ¬ isLikeSpecial c) : c ≠ '\\' := by
  rintro rfl
  exact plain rfl

/-- Drops each backslash that escapes, and keeps the character behind it. -/
def withoutEscapes : List Char → List Char
  | '\\' :: c :: rest => c :: withoutEscapes rest
  | ['\\'] => []
  | c :: rest => c :: withoutEscapes rest
  | [] => []

def unescapeLike (pattern : String) : String := String.ofList (withoutEscapes pattern.toList)

theorem withoutEscapes_escapeLikeChar (c : Char) (rest : List Char) :
    withoutEscapes (escapeLikeChar c ++ rest) = c :: withoutEscapes rest := by
  by_cases special : isLikeSpecial c
  · rw [escapeLikeChar_of_special special]
    rfl
  · rw [escapeLikeChar_of_plain special]
    have noBackslash := ne_backslash_of_plain special
    cases rest <;> simp [withoutEscapes, noBackslash]

theorem withoutEscapes_escaped (text : List Char) :
    withoutEscapes (text.flatMap escapeLikeChar) = text := by
  induction text with
  | nil => rfl
  | cons c text ih => rw [List.flatMap_cons, withoutEscapes_escapeLikeChar, ih]

theorem unescapeLike_escapeLike (text : String) : unescapeLike (escapeLike text) = text := by
  rw [unescapeLike, toList_escapeLike, withoutEscapes_escaped, String.ofList_toList]

theorem endsOpen_escaped_append (text rest : List Char) :
    endsOpen false (text.flatMap escapeLikeChar ++ rest) = endsOpen false rest := by
  induction text with
  | nil => rfl
  | cons c text ih =>
    rw [List.flatMap_cons, List.append_assoc]
    by_cases special : isLikeSpecial c
    · rw [escapeLikeChar_of_special special]
      simpa using ih
    · rw [escapeLikeChar_of_plain special]
      simpa [ne_backslash_of_plain special] using ih

theorem endsOpen_escaped (text : List Char) :
    endsOpen false (text.flatMap escapeLikeChar) = false := by
  have whole := endsOpen_escaped_append text []
  rwa [List.append_nil] at whole

theorem isEscape_of_special {text front back : List Char} {c : Char}
    (split : text = front ++ c :: back) (special : isLikeSpecial c) :
    IsEscape (text.flatMap escapeLikeChar) (front.flatMap escapeLikeChar) c
      (back.flatMap escapeLikeChar) where
  split := by
    rw [split, List.flatMap_append, List.flatMap_cons, escapeLikeChar_of_special special]
    rfl
  free := endsOpen_escaped front

theorem escapes_of_free {text front back : List Char} {c : Char}
    (split : text.flatMap escapeLikeChar = front ++ c :: back) (special : isLikeSpecial c)
    (free : endsOpen false front = false) :
    c = '\\' ∧ ∃ sign rest, back = sign :: rest ∧ isLikeSpecial sign := by
  induction text generalizing front with
  | nil => simp at split
  | cons first text ih =>
    rw [List.flatMap_cons] at split
    by_cases sign : isLikeSpecial first
    · rw [escapeLikeChar_of_special sign] at split
      -- The sign is the backslash of the first character, this character, or behind both.
      rcases front with _ | ⟨head, _ | ⟨second, front⟩⟩ <;>
        simp only [List.cons_append, List.nil_append, List.cons.injEq] at split
      · exact ⟨split.1.symm, first, _, split.2.symm, sign⟩
      · rw [← split.1] at free
        cases free
      · obtain ⟨rfl, rfl, split⟩ := split
        exact ih split (by simpa using free)
    · rw [escapeLikeChar_of_plain sign] at split
      have noBackslash := ne_backslash_of_plain sign
      rcases front with _ | ⟨head, front⟩ <;>
        simp only [List.cons_append, List.nil_append, List.cons.injEq] at split
      · exact absurd (split.1 ▸ special) sign
      · obtain ⟨rfl, split⟩ := split
        exact ih split (by simpa [noBackslash] using free)

/-- Escaping is an injective homomorphism, undone by dropping the escaping backslashes. Each sign of
a text gets a backslash of its own, no other sign of the escaped text acts, and what comes behind
it is read as if it stood alone. -/
theorem escapeLike_is_faithful :
    (∀ front back, escapeLike (front ++ back) = escapeLike front ++ escapeLike back) ∧
    (∀ text, unescapeLike (escapeLike text) = text) ∧
    Function.Injective escapeLike ∧
    ∀ text : String,
      (∀ front c back, text.toList = front ++ c :: back → isLikeSpecial c →
        IsEscape (escapeLike text).toList (front.flatMap escapeLikeChar) c
          (back.flatMap escapeLikeChar)) ∧
      (∀ front c back, (escapeLike text).toList = front ++ c :: back → isLikeSpecial c →
        endsOpen false front = false →
          c = '\\' ∧ ∃ sign rest, back = sign :: rest ∧ isLikeSpecial sign) ∧
      ∀ rest, endsOpen false ((escapeLike text).toList ++ rest) = endsOpen false rest ∧
        likeTokens ((escapeLike text).toList ++ rest) =
          text.toList.map .literal ++ likeTokens rest := by
  refine ⟨escapeLike_append, unescapeLike_escapeLike,
    Function.LeftInverse.injective unescapeLike_escapeLike, ?_⟩
  intro text
  simp only [toList_escapeLike]
  exact ⟨fun _ _ _ split special => isEscape_of_special split special,
    fun _ _ _ split special free => escapes_of_free split special free,
    fun rest => ⟨endsOpen_escaped_append _ rest, likeTokens_escaped_append _ rest⟩⟩

example : escapeLike "5%\\" = "5\\%\\\\" ∧ unescapeLike "5\\%\\\\" = "5%\\" ∧
    likeTokens "5\\%\\\\%".toList = [.literal '5', .literal '%', .literal '\\', .anyText] := by
  decide +kernel

end Text

end FinderQuery
