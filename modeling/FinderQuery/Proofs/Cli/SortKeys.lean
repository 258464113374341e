import FinderQuery.Proofs.Cli.Stages
import FinderQuery.Proofs.Earlier
import FinderQuery.Proofs.Encoding.Trees

namespace FinderQuery

namespace Cli

theorem splitAtLast?_eq_none_iff {c : Char} {text : List Char} :
    splitAtLast? c text = none ↔ c ∉ text := by
  induction text with
  | nil => simp [splitAtLast?]
  | cons head rest ih =>
    rw [splitAtLast?, List.mem_cons, not_or, ← ih]
    cases splitAtLast? c rest with
    | none =>
      by_cases hit : head = c
      · simp [hit]
      · simp [hit, Ne.symm hit]
    | some parts => simp

theorem splitAtLast?_append {c : Char} {after : List Char} (absent : c ∉ after)
    (before : List Char) : splitAtLast? c (before ++ c :: after) = some (before, after) := by
  induction before with
  | nil => simp [splitAtLast?, splitAtLast?_eq_none_iff.mpr absent]
  | cons head before ih => rw [List.cons_append, splitAtLast?, ih]

theorem splitAtLast?_eq_some_iff {c : Char} {text before after : List Char} :
    splitAtLast? c text = some (before, after) ↔ text = before ++ c :: after ∧ c ∉ after := by
  constructor
  · intro split
    induction text generalizing before with
    | nil => cases split
    | cons head rest ih =>
      rw [splitAtLast?] at split
      cases later : splitAtLast? c rest with
      | some parts =>
        rw [later] at split
        cases split
        obtain ⟨rfl, absent⟩ := ih later
        exact ⟨rfl, absent⟩
      | none =>
        rw [later] at split
        dsimp only at split
        split at split
        next hit =>
          cases split
          exact ⟨by rw [hit, List.nil_append], splitAtLast?_eq_none_iff.mp later⟩
        · cases split
  · rintro ⟨rfl, absent⟩
    exact splitAtLast?_append absent before

end Cli

open Cli

def inSmallLetters (word : String) : String := String.ofList (word.toList.map Char.toLower)

namespace Direction

def word : Direction → String
  | ascending => "asc"
  | descending => "desc"

def IsSpelledBy (direction : Direction) (text : String) : Prop :=
  inSmallLetters text = direction.word

instance (direction : Direction) (text : String) : Decidable (direction.IsSpelledBy text) :=
  inferInstanceAs (Decidable (_ = _))

theorem colon_not_mem_of_isSpelledBy {direction : Direction} {text : String}
    (spelled : direction.IsSpelledBy text) : ':' ∉ text.toList := by
  intro colon
  have lowered : Char.toLower ':' ∈ (inSmallLetters text).toList := by
    rw [inSmallLetters, String.toList_ofList]
    exact List.mem_map_of_mem colon
  rw [spelled] at lowered
  cases direction <;> exact absurd lowered (by decide)

end Direction

theorem Cli.directionOfWord?_eq_some_iff {text : String} {direction : Direction} :
    directionOfWord? text = some direction ↔ text = direction.word := by
  constructor
  · intro found
    unfold directionOfWord? at found
    split at found <;> cases found <;> rfl
  · rintro rfl
    cases direction <;> rfl

/-- The words that stand for a key: its property and direction, or only its property if it has no
colon and the order is ascending. -/
inductive SortKey.IsSpelledBy : SortKey → String → Prop
  | directed (property : String) {direction : Direction} {word : String}
      (spelled : direction.IsSpelledBy word) :
      IsSpelledBy ⟨property, direction⟩ (property ++ ":" ++ word)
  | bare {property : String} (noColon : ':' ∉ property.toList) :
      IsSpelledBy ⟨property, .ascending⟩ property

/-- What is behind the last colon of a text is a word, but no direction. -/
structure Misdirects (text word : String) : Prop where
  behind : ∃ property, text = property ++ ":" ++ word
  last : ':' ∉ word.toList
  noDirection : ∀ direction : Direction, ¬ direction.IsSpelledBy word

namespace SortKey

theorem parse_bare {text : String} (noColon : ':' ∉ text.toList) :
    parse text = .ok ⟨text, .ascending⟩ := by
  unfold parse
  rw [splitAtLast?_eq_none_iff.mpr noColon]

theorem parse_directed (property : String) {word : String} (last : ':' ∉ word.toList) :
    parse (property ++ ":" ++ word) =
      match directionOfWord? (inSmallLetters word) with
      | some direction => .ok ⟨property, direction⟩
      | none => .error (.unknownDirection (inSmallLetters word)) := by
  have split : splitAtLast? ':' (property ++ ":" ++ word).toList =
      some (property.toList, word.toList) := by
    rw [splitAtLast?_eq_some_iff]
    exact ⟨by simp, last⟩
  unfold parse
  rw [split]
  dsimp only
  rw [String.ofList_toList]
  rfl

theorem bare_or_directed (text : String) :
    ':' ∉ text.toList ∨
      ∃ property word : String, text = property ++ ":" ++ word ∧ ':' ∉ word.toList := by
  cases split : splitAtLast? ':' text.toList with
  | none => exact Or.inl (splitAtLast?_eq_none_iff.mp split)
  | some parts =>
    obtain ⟨same, last⟩ := splitAtLast?_eq_some_iff.mp split
    refine Or.inr ⟨String.ofList parts.1, String.ofList parts.2, ?_, by simpa using last⟩
    exact String.toList_injective (by simp [same])

theorem parse_of_isSpelledBy {key : SortKey} {text : String} (spelled : key.IsSpelledBy text) :
    parse text = .ok key := by
  cases spelled with
  | directed property spelled =>
    rw [parse_directed property (Direction.colon_not_mem_of_isSpelledBy spelled),
      directionOfWord?_eq_some_iff.mpr spelled]
  | bare noColon => exact parse_bare noColon

theorem parse_of_misdirects {text word : String} (misdirects : Misdirects text word) :
    parse text = .error (.unknownDirection (inSmallLetters word)) := by
  obtain ⟨⟨property, rfl⟩, last, noDirection⟩ := misdirects
  have unknown : directionOfWord? (inSmallLetters word) = none := by
    rw [Option.eq_none_iff_forall_ne_some]
    intro direction found
    exact noDirection direction (directionOfWord?_eq_some_iff.mp found)
  rw [parse_directed property last, unknown]

theorem isSpelledBy_or_misdirects (text : String) :
    (∃ key : SortKey, key.IsSpelledBy text) ∨ ∃ word, Misdirects text word := by
  rcases bare_or_directed text with noColon | ⟨property, word, rfl, last⟩
  · exact Or.inl ⟨_, .bare noColon⟩
  · by_cases known : ∃ direction : Direction, direction.IsSpelledBy word
    · obtain ⟨direction, spelled⟩ := known
      exact Or.inl ⟨_, .directed property spelled⟩
    · exact Or.inr ⟨word, ⟨property, rfl⟩, last, not_exists.mp known⟩

theorem parse_eq_ok_iff {text : String} {key : SortKey} :
    parse text = .ok key ↔ key.IsSpelledBy text := by
  refine ⟨fun parsed => ?_, parse_of_isSpelledBy⟩
  rcases isSpelledBy_or_misdirects text with ⟨other, spelled⟩ | ⟨word, misdirects⟩
  · rw [parse_of_isSpelledBy spelled] at parsed
    cases parsed
    exact spelled
  · rw [parse_of_misdirects misdirects] at parsed
    cases parsed

theorem parse_eq_error_iff {text : String} {failure : Failure} :
    parse text = .error failure ↔
      ∃ word, Misdirects text word ∧ failure = .unknownDirection (inSmallLetters word) := by
  constructor
  · intro failed
    rcases isSpelledBy_or_misdirects text with ⟨key, spelled⟩ | ⟨word, misdirects⟩
    · rw [parse_of_isSpelledBy spelled] at failed
      cases failed
    · rw [parse_of_misdirects misdirects] at failed
      cases failed
      exact ⟨word, misdirects, rfl⟩
  · rintro ⟨word, misdirects, rfl⟩
    exact parse_of_misdirects misdirects

theorem exists_parse_eq_ok_iff {text : String} :
    (∃ key, parse text = .ok key) ↔ ¬ ∃ word, Misdirects text word := by
  constructor
  · rintro ⟨key, parsed⟩ ⟨word, misdirects⟩
    rw [parse_of_misdirects misdirects] at parsed
    cases parsed
  · intro directed
    obtain ⟨key, spelled⟩ := (isSpelledBy_or_misdirects text).resolve_right directed
    exact ⟨key, parse_of_isSpelledBy spelled⟩

end SortKey

namespace Sorting

variable {texts : List String}

theorem parse_eq_ok_iff {keys : List SortKey} :
    parse texts = .ok ⟨keys⟩ ↔ List.Forall₂ SortKey.IsSpelledBy keys texts := by
  have each : texts.mapM SortKey.parse = .ok keys ↔
      List.Forall₂ SortKey.IsSpelledBy keys texts := by
    simp only [mapM_eq_ok_iff, SortKey.parse_eq_ok_iff]
    exact ⟨List.Forall₂.flip, List.Forall₂.flip⟩
  rw [← each]
  show (texts.mapM SortKey.parse).map Sorting.mk = _ ↔ _
  rw [map_eq_ok_iff]
  simp

theorem parse_eq_error_iff {failure : Failure} :
    parse texts = .error failure ↔
      ∃ front text back word, texts = front ++ text :: back ∧
        (∀ earlier ∈ front, ¬ ∃ word, Misdirects earlier word) ∧ Misdirects text word ∧
        failure = .unknownDirection (inSmallLetters word) := by
  show (texts.mapM SortKey.parse).map Sorting.mk = _ ↔ _
  rw [map_eq_error_iff, mapM_eq_error_iff]
  simp only [SortKey.exists_parse_eq_ok_iff, SortKey.parse_eq_error_iff]
  constructor
  · rintro ⟨front, text, back, split, before, word, misdirects, named⟩
    exact ⟨front, text, back, word, split, before, misdirects, named⟩
  · rintro ⟨front, text, back, word, split, before, misdirects, named⟩
    exact ⟨front, text, back, split, before, word, misdirects, named⟩

theorem parse_fails_iff :
    (∃ failure, parse texts = .error failure) ↔ ∃ text ∈ texts, ∃ word, Misdirects text word := by
  constructor
  · rintro ⟨failure, failed⟩
    obtain ⟨front, text, back, word, rfl, -, misdirects, -⟩ := parse_eq_error_iff.mp failed
    exact ⟨text, by simp, word, misdirects⟩
  · rintro ⟨text, member, misdirected⟩
    have stuck : ¬ ∃ keys, texts.mapM SortKey.parse = .ok keys := by
      rw [exists_mapM_eq_ok_iff]
      intro each
      exact SortKey.exists_parse_eq_ok_iff.mp (each text member) misdirected
    unfold parse
    cases result : texts.mapM SortKey.parse with
    | error failure => exact ⟨failure, rfl⟩
    | ok keys => exact absurd ⟨keys, result⟩ stuck

def withoutBlank (text : String) : String := String.ofList (text.toList.dropWhile Char.isWhitespace)

theorem render_eq_withoutBlank (sorting : Sorting) :
    sorting.render = withoutBlank (clause (some sorting)) := by
  unfold withoutBlank clause
  dsimp only
  split
  next empty => rw [render, if_pos empty]; rfl
  next filled =>
    rw [render, if_neg filled]
    exact String.toList_injective (by simp)

end Sorting

namespace Cli

theorem run_sort {surroundings : Surroundings Id} {words texts : List String}
    {invocation : Invocation}
    (parsed : Invocation.parse surroundings.environment.config words = .ok invocation)
    (command : invocation.command = .sort texts) :
    run surroundings words =
      .ofExcept [] (invocation.sort (invocation.palette surroundings.onTerminal) texts) := by
  rw [run_of_parse parsed]
  unfold Invocation.execute
  rw [command]
  rfl

/-- Words are read as the keys that they spell. They cannot be read if one of them has no direction
behind its last colon, and the first such word is reported. A run prints the clause that the same
keys have in a request, in plain text without the blank in front of it. -/
theorem sort_keys_decode (texts : List String) :
    (∀ keys, Sorting.parse texts = .ok ⟨keys⟩ ↔ List.Forall₂ SortKey.IsSpelledBy keys texts) ∧
    ((∃ failure, Sorting.parse texts = .error failure) ↔
      ∃ text ∈ texts, ∃ word, Misdirects text word) ∧
    (∀ failure, Sorting.parse texts = .error failure ↔
      ∃ front text back word, texts = front ++ text :: back ∧
        (∀ earlier ∈ front, ¬ ∃ word, Misdirects earlier word) ∧ Misdirects text word ∧
        failure = .unknownDirection (inSmallLetters word)) ∧
    ∀ (surroundings : Surroundings Id) (words : List String) (invocation : Invocation),
      Invocation.parse surroundings.environment.config words = .ok invocation →
      invocation.command = .sort texts →
      (∀ word, Sorting.parse texts = .error (.unknownDirection word) →
        run surroundings words = ⟨1, "", ["error: invalid sort direction '" ++ word ++ "'"]⟩) ∧
      ∀ keys json sorting, List.Forall₂ SortKey.IsSpelledBy keys texts →
        Json.decode? Sorting.ofJson? json = some sorting → sorting.keys = keys →
        run surroundings words = .success [] (invocation.present
          (fun clause => line ((invocation.palette surroundings.onTerminal).query.paint
            (Sorting.withoutBlank clause)))
          (fun clause => .string (some clause)) (Sorting.clause (some sorting))) := by
  refine ⟨fun keys => Sorting.parse_eq_ok_iff, Sorting.parse_fails_iff,
    fun failure => Sorting.parse_eq_error_iff, ?_⟩
  intro surroundings words invocation parsed command
  have ended := run_sort parsed command
  unfold Invocation.sort at ended
  constructor
  · intro word failed
    rw [failed] at ended
    rw [ended]
    show Outcome.mk 1 "" ["error: " ++ (Failure.unknownDirection word).message] = _
    rfl
  · rintro keys json ⟨keys⟩ spelled - rfl
    rw [Sorting.parse_eq_ok_iff.mpr spelled] at ended
    rw [ended]
    show Outcome.success [] _ = _
    unfold Invocation.present Palette.sortingReport
    rw [Sorting.render_eq_withoutBlank]

def noFiles : Surroundings Id where
  environment := {}
  onTerminal := false
  file _ := .missing
  input := .text ""

/-- A property with a colon, a direction in mixed letters, and a key without a direction. -/
theorem colons_of_properties_are_kept :
    Sorting.parse ["a:b:DeSc", "name"] = .ok ⟨[⟨"a:b", .descending⟩, ⟨"name", .ascending⟩]⟩ ∧
    Sorting.parse ["age:ASC", "a:B", "c:D"] = .error (.unknownDirection "b") ∧
    (run noFiles ["--format", "json", "sort", "a:b:DeSc", "name"]).output =
      "\" SORT e.a:b DESC, e.name ASC\"\n" := by
  have ⟨keysOf, _, _, printed⟩ := sort_keys_decode ["a:b:DeSc", "name"]
  have mixed : Direction.descending.IsSpelledBy "DeSc" := by decide
  have spelled : List.Forall₂ SortKey.IsSpelledBy [⟨"a:b", .descending⟩, ⟨"name", .ascending⟩]
      ["a:b:DeSc", "name"] :=
    .cons (.directed "a:b" mixed) (.cons (.bare (by decide)) .nil)
  refine ⟨(keysOf _).mpr spelled, ?_, ?_⟩
  · have ⟨_, _, failureOf, _⟩ := sort_keys_decode ["age:ASC", "a:B", "c:D"]
    refine (failureOf _).mpr ⟨["age:ASC"], "a:B", ["c:D"], "B", rfl, ?_, ?_, by decide⟩
    · rintro earlier member ⟨word, misdirects⟩
      cases List.mem_singleton.mp member
      have read : SortKey.parse "age:ASC" = .ok ⟨"age", .ascending⟩ := by decide
      rw [SortKey.parse_of_misdirects misdirects] at read
      cases read
    · exact ⟨⟨"a", rfl⟩, by decide, fun direction => by cases direction <;> decide⟩
  · have ⟨_, clause⟩ := printed noFiles ["--format", "json", "sort", "a:b:DeSc", "name"]
      ⟨none, .json, .auto, false, .sort ["a:b:DeSc", "name"]⟩ rfl rfl
    have decoded : Json.decode? Sorting.ofJson?
        ("[\x7b\"property\": \"a:b\", \"direction\": \"desc\"\x7d, " ++
          "\x7b\"property\": \"name\"\x7d]") =
        some ⟨[⟨"a:b", .descending⟩, ⟨"name", .ascending⟩]⟩ := by decide +kernel
    rw [clause _ _ _ spelled decoded rfl]
    decide +kernel

end Cli

end FinderQuery
