import FinderQuery.Proofs.Closed
import Mathlib.Data.List.Infix

namespace FinderQuery

namespace Text

inductive LikeToken where
  | anyText
  | anyChar
  | literal (char : Char)
  deriving DecidableEq

/-- A backslash takes the next character literally; the last one of a pattern takes itself. -/
def likeTokens : List Char → List LikeToken
  | [] => []
  | '%' :: rest => .anyText :: likeTokens rest
  | '_' :: rest => .anyChar :: likeTokens rest
  | '\\' :: char :: rest => .literal char :: likeTokens rest
  | char :: rest => .literal char :: likeTokens rest

def LikeToken.accepts : List LikeToken → List Char → Bool
  | [], text => text.isEmpty
  | anyText :: tokens, text => text.tails.any (accepts tokens)
  | anyChar :: tokens, text => !text.isEmpty && accepts tokens text.tail
  | literal char :: tokens, text => text.head? = some char && accepts tokens text.tail

/-- Whether the whole of a subject matches a LIKE pattern. -/
def like (pattern subject : String) : Bool :=
  LikeToken.accepts (likeTokens pattern.toList) subject.toList

theorem likeTokens_escapeLikeChar (char : Char) (rest : List Char) :
    likeTokens (escapeLikeChar char ++ rest) = .literal char :: likeTokens rest := by
  by_cases special : isLikeSpecial char
  · rw [escapeLikeChar_of_special special]
    rfl
  · rw [escapeLikeChar_of_plain special]
    rw [isLikeSpecial_iff, not_or, not_or] at special
    obtain ⟨noPercent, noUnderscore, noBackslash⟩ := special
    simp [likeTokens, noBackslash]

theorem likeTokens_escaped_append (text rest : List Char) :
    likeTokens (text.flatMap escapeLikeChar ++ rest) = text.map .literal ++ likeTokens rest := by
  induction text with
  | nil => rfl
  | cons char text ih =>
    rw [List.flatMap_cons, List.append_assoc, likeTokens_escapeLikeChar, ih]
    rfl

namespace LikeToken

theorem accepts_literals_append (literals : List Char) (tokens : List LikeToken)
    (text : List Char) :
    accepts (literals.map literal ++ tokens) text ↔
      ∃ rest, text = literals ++ rest ∧ accepts tokens rest := by
  induction literals generalizing text with
  | nil => simp
  | cons char literals ih =>
    cases text with
    | nil => simp [accepts]
    | cons first text =>
      simp only [List.map_cons, List.cons_append, accepts, List.head?_cons, List.tail_cons,
        Bool.and_eq_true, decide_eq_true_eq, Option.some.injEq, ih, List.cons.injEq, and_assoc,
        exists_and_left]

theorem accepts_anyText (text : List Char) : accepts [anyText] text := by
  simp only [accepts, List.any_eq_true]
  exact ⟨[], (List.mem_tails _ _).mpr List.nil_suffix, rfl⟩

theorem accepts_literals (literals text : List Char) :
    accepts (literals.map literal) text ↔ text = literals := by
  have whole := accepts_literals_append literals [] text
  rw [List.append_nil] at whole
  rw [whole]
  simp [accepts]

theorem accepts_prefix (literals text : List Char) :
    accepts (literals.map literal ++ [anyText]) text ↔ literals <+: text := by
  rw [accepts_literals_append]
  apply Iff.intro
  · intro given
    rcases given with ⟨rest, rfl, -⟩
    exact List.prefix_append _ _
  · intro given
    rcases given with ⟨rest, rfl⟩
    exact ⟨rest, rfl, accepts_anyText rest⟩

theorem accepts_suffix (literals text : List Char) :
    accepts (anyText :: literals.map literal) text ↔ literals <:+ text := by
  simp only [accepts, List.any_eq_true, accepts_literals, List.mem_tails, exists_eq_right]

end LikeToken

end Text

namespace PatternMode

theorem like_startsWith (text subject : String) :
    Text.like (startsWith.pattern text) subject ↔ text.toList <+: subject.toList := by
  have tokens : Text.likeTokens (startsWith.pattern text).toList =
      text.toList.map .literal ++ [.anyText] := by
    rw [pattern, String.toList_append, Text.toList_escapeLike, Text.likeTokens_escaped_append]
    rfl
  rw [Text.like, tokens, Text.LikeToken.accepts_prefix]

theorem like_endsWith (text subject : String) :
    Text.like (endsWith.pattern text) subject ↔ text.toList <:+ subject.toList := by
  have escaped := Text.likeTokens_escaped_append text.toList []
  have tokens : Text.likeTokens (endsWith.pattern text).toList =
      .anyText :: text.toList.map .literal := by
    rw [List.append_nil, Text.likeTokens, List.append_nil] at escaped
    rw [pattern, String.toList_append, Text.toList_escapeLike]
    exact congrArg (Text.LikeToken.anyText :: ·) escaped
  rw [Text.like, tokens, Text.LikeToken.accepts_suffix]

example : Text.like (endsWith.pattern "5%") "to 5%" ∧
    ¬ Text.like (endsWith.pattern "5%") "to 50" := by
  decide

end PatternMode

open Argument

theorem BindRequest.valuesOf_string (request : BindRequest) (text : String) :
    request.valuesOf (scalar (.string text)) =
      [.string (request.mode.pattern (Text.lowercaseIf request.ignoreCase text))] := by
  rw [valuesOf, operandText_eq]

theorem Binder.bind_string (request : BindRequest) (single : request.arity = 1) (text : String)
    (rest : List Argument) (vars : BindVars) :
    bind ⟨scalar (.string text) :: rest, vars⟩ request =
      (.ok (.fixed 1),
        ⟨rest, vars.push
          (.string (request.mode.pattern (Text.lowercaseIf request.ignoreCase text)))⟩) := by
  have share : (scalar (.string text) :: rest).take request.arity = [scalar (.string text)] := by
    rw [single]
    rfl
  have fits : request.error? [scalar (.string text)] = none := by
    rw [BindRequest.error?_eq_none_iff, single]
    exact ⟨rfl, Nat.le_refl 1⟩
  have run := bind_of_fits request (scalar (.string text) :: rest) vars (share ▸ fits)
  rw [run, share, single, List.flatMap_singleton, BindRequest.valuesOf_string]
  rfl

def Part.likeClause (part : Part) (property : Metadata.Property) (key : Nat) : Fragment :=
  .predicate (property.leaf.reference property.field
    (part.ignoresCase property.leaf) ++ " LIKE @" ++ keyText key)

theorem Template.render_like (mode : PatternMode) (context : ClauseContext) (first : Nat) :
    render { comparison "LIKE" with mode := mode } context first =
      .predicate (context.property ++ " LIKE @" ++ keyText first) := by
  have text : Clause.render context first (comparison "LIKE").pieces =
      context.property ++ " LIKE @" ++ keyText first := by
    rw [← String.toList_inj]
    simp [Clause.render, Clause.Piece.render, comparison, keyText]
  exact congrArg Fragment.predicate text

theorem Compile.part_result_of_string (target : Compile.Target) {part : Part}
    {property : Metadata.Property} {mode : PatternMode}
    (known : target.metadata.property target.entity part.property = .ok property)
    (pattern : part.operator.template? = some { Template.comparison "LIKE" with mode := mode })
    (text : String) (rest : List Argument) (vars : BindVars) :
    (Compile.part target part ⟨scalar (.string text) :: rest, vars⟩).result =
      .ok (part.likeClause property vars.size,
        ⟨rest, vars.push (.string
          (mode.pattern (Text.lowercaseIf (part.ignoresCase property.leaf) text)))⟩) := by
  have bound := Binder.bind_string
    ⟨part.operator, 1, part.ignoresCase property.leaf, mode⟩ rfl text rest vars
  have template : Compile.templateOf part.operator =
      .ok { Template.comparison "LIKE" with mode := mode } :=
    Compile.templateOf_eq_ok_iff.mpr pattern
  obtain ⟨leaf, field⟩ := Metadata.property_eq_ok_iff.mp known
  simp only [Compile.part, Traced.result_bind, Traced.result_ofExcept, Traced.result_report,
    Traced.result_pure, leaf, field, template]
  simp only [bind, Except.bind, Template.comparison, bound]
  exact congrArg (fun clause => Except.ok (clause, _)) (Template.render_like mode _ _)

/-- A part that asks for a beginning or an end compares its property with a pattern that matches
exactly the subjects which begin or end with its argument, whatever characters that holds. If case
is ignored, the subject is the lowered property, and the argument is lowered too. -/
theorem Compile.part_matches_beginning_or_end (target : Compile.Target) {part : Part}
    {property : Metadata.Property}
    (known : target.metadata.property target.entity part.property = .ok property)
    (text : String) (rest : List Argument) (vars : BindVars) :
    (part.operator = .startingWith → ∃ pattern,
      (Compile.part target part ⟨scalar (.string text) :: rest, vars⟩).result =
        .ok (part.likeClause property vars.size, ⟨rest, vars.push (.string pattern)⟩) ∧
      ∀ subject, Text.like pattern subject ↔
        (Text.lowercaseIf (part.ignoresCase property.leaf) text).toList <+: subject.toList) ∧
    (part.operator = .endingWith → ∃ pattern,
      (Compile.part target part ⟨scalar (.string text) :: rest, vars⟩).result =
        .ok (part.likeClause property vars.size, ⟨rest, vars.push (.string pattern)⟩) ∧
      ∀ subject, Text.like pattern subject ↔
        (Text.lowercaseIf (part.ignoresCase property.leaf) text).toList <:+ subject.toList) := by
  apply And.intro
  · intro starting
    have template : part.operator.template? =
        some { Template.comparison "LIKE" with mode := .startsWith } := by
      rw [starting]
      rfl
    exact ⟨_, part_result_of_string target known template text rest vars,
      PatternMode.like_startsWith _⟩
  · intro ending
    have template : part.operator.template? =
        some { Template.comparison "LIKE" with mode := .endsWith } := by
      rw [ending]
      rfl
    exact ⟨_, part_result_of_string target known template text rest vars,
      PatternMode.like_endsWith _⟩

theorem Compile.part_matches_percent_at_beginning :
    placeCatalog.metadata.property "Place" ⟨["name"]⟩ = .ok ⟨"name", { kind := .string }⟩ ∧
    ∃ pattern,
      (Compile.part ⟨placeCatalog, "Place", "places"⟩ ⟨⟨["name"]⟩, .startingWith, .always⟩
          ⟨[scalar (.string "5%_\\")], .empty⟩).result =
        .ok (.predicate "LOWER(e.name) LIKE @0", ⟨[], BindVars.empty.push (.string pattern)⟩) ∧
      ∀ subject, Text.like pattern subject ↔
        (Text.lowercaseIf true "5%_\\").toList <+: subject.toList := by
  let part : Part := ⟨⟨["name"]⟩, .startingWith, .always⟩
  have known : placeCatalog.metadata.property "Place" part.property =
    .ok ⟨"name", { kind := .string }⟩ := rfl
  exact ⟨known, (part_matches_beginning_or_end ⟨placeCatalog, "Place", "places"⟩ known
    "5%_\\" [] .empty).1 rfl⟩

end FinderQuery
