import FinderQuery.Proofs.Projection
import FinderQuery.Proofs.VariableNames
import Mathlib.Data.List.SplitBy

namespace FinderQuery

def isNameChar (c : Char) : Bool := c.isAlphanum || c == '_'

/-- Names, numbers and keywords, and every other character but for white space on its own. -/
def words (text : String) : List String :=
  ((text.toList.splitBy fun c d => isNameChar c && isNameChar d).filter
    fun word => !word.all Char.isWhitespace).map String.ofList

def beginsApart (text : String) : Bool := text.toList.head?.all (!isNameChar ·)

def endsApart (text : String) : Bool := text.toList.getLast?.all (!isNameChar ·)

theorem words_append {front back : String} (apart : endsApart front ∨ beginsApart back) :
    words (front ++ back) = words front ++ words back := by
  have split : ∀ c ∈ front.toList.getLast?, ∀ d ∈ back.toList.head?,
      (isNameChar c && isNameChar d) = false := by
    intro c last d first
    rcases apart with ends | begins
    · rw [endsApart, Option.all_eq_true] at ends
      rw [(Bool.not_eq_true' _).mp (ends c last), Bool.false_and]
    · rw [beginsApart, Option.all_eq_true] at begins
      rw [(Bool.not_eq_true' _).mp (begins d first), Bool.and_false]
  unfold words
  rw [String.toList_append, List.splitBy_append split, List.filter_append, List.map_append]

theorem beginsApart_append {front : String} (filled : words front ≠ []) (back : String) :
    beginsApart (front ++ back) = beginsApart front := by
  have some : front.toList ≠ [] := by
    rintro none
    rw [String.toList_eq_nil_iff.mp none] at filled
    exact filled rfl
  rw [beginsApart, String.toList_append, List.head?_append_of_ne_nil _ some, beginsApart]

theorem mem_of_mem_words {text word : String} (member : word ∈ words text) {c : Char}
    (inside : c ∈ word.toList) : c ∈ text.toList := by
  obtain ⟨piece, listed, rfl⟩ := List.mem_map.mp member
  rw [String.toList_ofList] at inside
  rw [← List.flatten_splitBy (fun c d => isNameChar c && isNameChar d) text.toList]
  exact List.mem_flatten_of_mem (List.mem_filter.mp listed).1 inside

def inCapitals (word : String) : String := String.ofList (word.toList.map Char.toUpper)

def clauseKeywords : List String :=
  ["FOR", "FILTER", "COLLECT", "SORT", "LIMIT", "RETURN", "REMOVE"]

def isClauseKeyword (word : String) : Bool := inCapitals word ∈ clauseKeywords

def LacksKeywords (text : String) : Prop := ∀ word ∈ words text, ¬ isClauseKeyword word

instance (text : String) : Decidable (LacksKeywords text) :=
  inferInstanceAs (Decidable (∀ word ∈ words text, _))

/-- The clauses of a text, each with its words. -/
def clauses (text : String) : List (List String) :=
  (words text).splitBy fun _ next => !isClauseKeyword next

def OpensWith (keyword : String) (clause : List String) : Prop :=
  clause.head?.map inCapitals = some keyword

instance (keyword : String) (clause : List String) : Decidable (OpensWith keyword clause) :=
  inferInstanceAs (Decidable (_ = _))

theorem opensWith_cons {keyword word : String} {rest : List String} :
    OpensWith keyword (word :: rest) ↔ inCapitals word = keyword := by
  simp [OpensWith]

theorem exists_word_of_opensWith {text keyword : String} {clause : List String}
    (listed : clause ∈ clauses text) (opens : OpensWith keyword clause) :
    ∃ word ∈ words text, inCapitals word = keyword := by
  obtain ⟨word, first, same⟩ := Option.map_eq_some_iff.mp opens
  refine ⟨word, ?_, same⟩
  rw [← List.flatten_splitBy (fun _ next => !isClauseKeyword next) (words text)]
  exact List.mem_flatten_of_mem listed (List.mem_of_head? first)

structure BeginsClause (text : String) : Prop where
  apart : beginsApart text
  keyword : (words text).head?.all isClauseKeyword

theorem BeginsClause.append {front : String} (begins : BeginsClause front)
    (filled : words front ≠ []) (ends : endsApart front) (back : String) :
    BeginsClause (front ++ back) where
  apart := by
    rw [beginsApart_append filled]
    exact begins.apart
  keyword := by
    rw [words_append (Or.inl ends), List.head?_append_of_ne_nil _ filled]
    exact begins.keyword

theorem clauses_append (front : String) {back : String} (begins : BeginsClause back) :
    clauses (front ++ back) = clauses front ++ clauses back := by
  have keyword := begins.keyword
  rw [Option.all_eq_true] at keyword
  unfold clauses
  rw [words_append (Or.inr begins.apart)]
  refine List.splitBy_append fun _ _ word first => ?_
  rw [keyword word first, Bool.not_true]

theorem clauses_eq_singleton {text keyword : String} {rest : List String}
    (shape : words text = keyword :: rest) (plain : ∀ word ∈ rest, ¬ isClauseKeyword word) :
    clauses text = [keyword :: rest] := by
  unfold clauses
  rw [shape]
  refine List.splitBy_of_isChain (List.cons_ne_nil _ _) (List.Pairwise.isChain ?_)
  rw [List.pairwise_cons]
  exact ⟨fun word member => by simp [plain word member],
    List.pairwise_of_forall_mem_list fun _ _ word member => by simp [plain word member]⟩

/-- The clause uses a variable: it has its name, and not as that of an attribute. -/
def RefersTo (name : String) (clause : List String) : Prop :=
  ∃ before after, clause = before ++ name :: after ∧ before.getLast? ≠ some "."

theorem RefersTo.mem {name : String} {clause : List String} (refers : RefersTo name clause) :
    name ∈ clause := by
  obtain ⟨before, after, rfl, -⟩ := refers
  simp

theorem refersTo_second {keyword : String} (other : keyword ≠ ".") (name : String)
    (rest : List String) : RefersTo name (keyword :: name :: rest) :=
  ⟨[keyword], rest, rfl, by simpa using other⟩

def HasClause (keyword text : String) : Prop := ∃ clause ∈ clauses text, OpensWith keyword clause

def behindCollect (text : String) : List (List String) :=
  ((clauses text).dropWhile fun clause => !decide (OpensWith "COLLECT" clause)).drop 1

/-- The variable of the loop is not used where it is out of scope. -/
def IsWellScoped (text : String) : Prop := ∀ clause ∈ behindCollect text, ¬ RefersTo "e" clause

theorem words_sorting_cons (key : SortKey) (keys : List SortKey) :
    words (", ".intercalate ((key :: keys).map SortKey.render)) =
      words key.render ++ keys.flatMap fun key => "," :: words key.render := by
  induction keys generalizing key with
  | nil => simp
  | cons next keys ih =>
    have filled : (next :: keys).map SortKey.render ≠ [] := List.cons_ne_nil _ _
    have begins : beginsApart (", " ++ ", ".intercalate ((next :: keys).map SortKey.render)) := by
      rw [beginsApart_append (by decide)]
      decide
    rw [List.map_cons, String.intercalate_cons_of_ne_nil filled, String.append_assoc,
      words_append (Or.inr begins), words_append (Or.inl (by decide)), ih, List.flatMap_cons]
    rfl

theorem words_sortKey (key : SortKey) :
    words key.render = "e" :: "." :: (words key.property ++ [key.direction.keyword]) := by
  have blank : words (" " ++ key.direction.keyword) = [key.direction.keyword] := by
    cases key.direction <;> decide
  have begins : beginsApart (" " ++ key.direction.keyword) := by
    cases key.direction <;> decide
  rw [SortKey.render, String.append_assoc, words_append (Or.inr begins),
    words_append (Or.inl (by decide)), blank]
  rfl

theorem lacksKeywords_sortKey {key : SortKey} (plain : LacksKeywords key.property) :
    LacksKeywords key.render := by
  unfold LacksKeywords
  rw [words_sortKey]
  simp only [List.forall_mem_cons, List.forall_mem_append]
  exact ⟨by decide, by decide, plain, by cases key.direction <;> decide, nofun⟩

theorem lacksKeywords_number (count : Nat) : LacksKeywords (toString count) := by
  intro word member keyword
  -- Letters are not digits, so the digits of a word are not made to any keyword by capitals.
  have digits : ∀ c ∈ (inCapitals word).toList, c.isDigit := by
    rw [inCapitals, String.toList_ofList, List.forall_mem_map]
    intro c inside
    have digit : c.isDigit := isDigit_of_mem_keyText (mem_of_mem_words member inside)
    obtain ⟨value, small, rfl⟩ := eq_digitChar_of_isDigit digit
    have kept : ∀ value < 10, (Nat.digitChar value).toUpper.isDigit := by decide
    exact kept value small
  have letters : ∀ keyword ∈ clauseKeywords, ¬ keyword.toList.all Char.isDigit := by decide
  exact letters _ (of_decide_eq_true keyword) (List.all_eq_true.mpr digits)

namespace Query

theorem beginsClause_collect (tree : PartTree) : BeginsClause (collectClause tree) := by
  unfold collectClause
  split
  · split <;> exact ⟨by decide, by decide⟩
  · exact ⟨by decide, by decide⟩

theorem beginsClause_sorting (sorting : Option Sorting) :
    BeginsClause (Sorting.clause sorting) := by
  have empty : BeginsClause "" := ⟨by decide, by decide⟩
  cases sorting with
  | none => exact empty
  | some sorting =>
    rw [Sorting.clause, Sorting.render]
    split
    · exact empty
    · rw [← String.append_assoc]
      exact BeginsClause.append ⟨by decide, by decide⟩ (by decide) (by decide) _

theorem beginsClause_limit (limit : Option UInt64) : BeginsClause (limitClause limit) := by
  cases limit with
  | none => exact ⟨by decide, by decide⟩
  | some count => exact BeginsClause.append ⟨by decide, by decide⟩ (by decide) (by decide) _

theorem beginsClause_action (collection : String) (tree : PartTree) :
    BeginsClause (actionClause collection tree) := by
  unfold actionClause
  split
  · exact BeginsClause.append ⟨by decide, by decide⟩ (by decide) (by decide) _
  · split <;> exact ⟨by decide, by decide⟩

/-- Whatever the texts in it, a query has the clauses of its pieces. -/
theorem clauses_assemble (collection : String) (selection : Selection) (tree : PartTree)
    (sorting : Option Sorting) :
    clauses (assemble collection selection tree sorting) =
      clauses (head collection selection) ++ (clauses (collectClause tree) ++
        (clauses (Sorting.clause sorting) ++ (clauses (limitClause tree.maxResults) ++
          clauses (actionClause collection tree)))) := by
  unfold assemble
  rw [clauses_append _ (beginsClause_action collection tree),
    clauses_append _ (beginsClause_limit tree.maxResults),
    clauses_append _ (beginsClause_sorting sorting), clauses_append _ (beginsClause_collect tree)]
  simp only [List.append_assoc]
  rfl

/-- The texts of a query begin no clauses of their own, except that its documents may come from a
query that does not count. -/
structure KeepsClauses (collection : String) (selection : Selection) (sorting : Option Sorting) :
    Prop where
  collection : LacksKeywords collection
  source : ∀ text ∈ selection.source, ∀ word ∈ words text, inCapitals word ≠ "COLLECT"
  predicate : ∀ text ∈ selection.predicate, ∀ word ∈ words text, inCapitals word ≠ "COLLECT"
  properties : ∀ sort ∈ sorting, ∀ key ∈ sort.keys, LacksKeywords key.property

theorem clauses_collect (tree : PartTree) :
    clauses (collectClause tree) =
      if tree.countProjection then
        if tree.distinct then
          [["COLLECT", "entity", "=", "e"], ["COLLECT", "WITH", "COUNT", "INTO", "length"]]
        else [["COLLECT", "WITH", "COUNT", "INTO", "length"]]
      else [] := by
  unfold collectClause
  split
  · split <;> decide
  · rfl

theorem clauses_sorting {sorting : Option Sorting}
    (plain : ∀ sort ∈ sorting, ∀ key ∈ sort.keys, LacksKeywords key.property) :
    (clauses (Sorting.clause sorting) = [] ∧ ∀ sort ∈ sorting, sort.keys = []) ∨
      ∃ rest, clauses (Sorting.clause sorting) = ["SORT" :: "e" :: rest] ∧
        ∃ sort ∈ sorting, sort.keys ≠ [] := by
  cases sorting with
  | none => exact Or.inl ⟨rfl, nofun⟩
  | some sorting =>
    obtain ⟨keys⟩ := sorting
    have each : ∀ key ∈ keys, LacksKeywords key.property := plain ⟨keys⟩ rfl
    cases keys with
    | nil =>
      refine Or.inl ⟨rfl, fun sort same => ?_⟩
      cases same
      rfl
    | cons key keys =>
      rw [List.forall_mem_cons] at each
      have shape : words (Sorting.clause (some ⟨key :: keys⟩)) =
          "SORT" :: (words key.render ++ keys.flatMap fun key => "," :: words key.render) := by
        rw [← words_sorting_cons]
        show words (" " ++ ("SORT " ++ _)) = _
        rw [← String.append_assoc, words_append (Or.inl (by decide))]
        rfl
      have rest : ∀ word ∈ words key.render ++ keys.flatMap fun key => "," :: words key.render,
          ¬ isClauseKeyword word := by
        rw [List.forall_mem_append, List.forall_mem_flatMap]
        refine ⟨lacksKeywords_sortKey each.1, fun key member => ?_⟩
        rw [List.forall_mem_cons]
        exact ⟨by decide, lacksKeywords_sortKey (each.2 key member)⟩
      have clause := clauses_eq_singleton shape rest
      rw [words_sortKey] at clause
      exact Or.inr ⟨_, clause, _, rfl, List.cons_ne_nil _ _⟩

theorem clauses_limit (limit : Option UInt64) :
    clauses (limitClause limit) =
      (limit.map fun count => "LIMIT" :: words (toString count.toNat)).toList := by
  cases limit with
  | none => rfl
  | some count =>
    refine clauses_eq_singleton ?_ (lacksKeywords_number count.toNat)
    rw [limitClause, words_append (Or.inl (by decide))]
    rfl

theorem clauses_action {collection : String} (plain : LacksKeywords collection) (tree : PartTree) :
    clauses (actionClause collection tree) =
      [if tree.delete then "REMOVE" :: "e" :: "IN" :: words collection
        else ["RETURN", if tree.countProjection then "length" else "e"]] := by
  unfold actionClause
  split
  · have shape : words (" REMOVE e IN " ++ collection) =
        "REMOVE" :: "e" :: "IN" :: words collection := by
      rw [words_append (Or.inl (by decide))]
      rfl
    refine clauses_eq_singleton shape ?_
    rw [List.forall_mem_cons, List.forall_mem_cons]
    exact ⟨by decide, by decide, plain⟩
  · cases tree.countProjection <;> decide

theorem lacksCollect_head {collection : String} {selection : Selection} {sorting : Option Sorting}
    (keeps : KeepsClauses collection selection sorting) :
    ∀ word ∈ words (head collection selection), inCapitals word ≠ "COLLECT" := by
  have source : ∀ word ∈ words (selection.source.getD collection),
      inCapitals word ≠ "COLLECT" := by
    cases given : selection.source with
    | some text => exact keeps.source text given
    | none =>
      intro word member same
      refine keeps.collection word member ?_
      rw [isClauseKeyword, same]
      decide
  have filter : ∀ word ∈ words (filterClause selection.predicate),
      inCapitals word ≠ "COLLECT" := by
    cases given : selection.predicate with
    | none => decide
    | some text =>
      rw [filterClause]
      split
      · decide
      · rw [words_append (Or.inl (by decide)), List.forall_mem_append]
        exact ⟨by decide, keeps.predicate text given⟩
  have apart : beginsApart (filterClause selection.predicate) := by
    cases selection.predicate with
    | none => rfl
    | some text =>
      rw [filterClause]
      split
      · rfl
      · rw [beginsApart_append (by decide)]
        decide
  rw [head, words_append (Or.inr apart), words_append (Or.inl (by decide))]
  simp only [List.forall_mem_append]
  exact ⟨⟨by decide, source⟩, filter⟩

def lastClauses (collection : String) (tree : PartTree) (sorting : Option Sorting) :
    List (List String) :=
  clauses (Sorting.clause sorting) ++ (clauses (limitClause tree.maxResults) ++
    clauses (actionClause collection tree))

/-- What these clauses can be: a sort, a limit, and what is done with each document. -/
inductive IsLast (tree : PartTree) (sorting : Option Sorting) : List String → Prop
  | sort (rest : List String) (keys : ∃ sort ∈ sorting, sort.keys ≠ []) :
    IsLast tree sorting ("SORT" :: "e" :: rest)
  | limit (count : Nat) : IsLast tree sorting ("LIMIT" :: words (toString count))
  | removal (rest : List String) (delete : tree.delete) :
    IsLast tree sorting ("REMOVE" :: "e" :: rest)
  | result : IsLast tree sorting ["RETURN", if tree.countProjection then "length" else "e"]

section

variable {collection : String} {selection : Selection} {tree : PartTree} {sorting : Option Sorting}

theorem isLast_of_mem (keeps : KeepsClauses collection selection sorting) {clause : List String}
    (member : clause ∈ lastClauses collection tree sorting) : IsLast tree sorting clause := by
  unfold lastClauses at member
  rw [clauses_limit, clauses_action keeps.collection, List.mem_append, List.mem_append,
    List.mem_singleton] at member
  rcases member with sorted | limited | rfl
  · rcases clauses_sorting keeps.properties with ⟨none, -⟩ | ⟨rest, one, keys⟩
    · rw [none] at sorted
      cases sorted
    · rw [one, List.mem_singleton] at sorted
      rw [sorted]
      exact .sort rest keys
  · rw [Option.mem_toList, Option.map_eq_some_iff] at limited
    obtain ⟨count, -, rfl⟩ := limited
    exact .limit _
  · split
    next delete => exact .removal _ delete
    next => exact .result

theorem exists_sort_mem_lastClauses (keeps : KeepsClauses collection selection sorting)
    (keys : ∃ sort ∈ sorting, sort.keys ≠ []) :
    ∃ rest, "SORT" :: "e" :: rest ∈ lastClauses collection tree sorting := by
  rcases clauses_sorting keeps.properties with ⟨-, none⟩ | ⟨rest, one, -⟩
  · obtain ⟨sort, given, filled⟩ := keys
    exact absurd (none sort given) filled
  · refine ⟨rest, List.mem_append_left _ ?_⟩
    rw [one]
    exact List.mem_cons_self

theorem exists_removal_mem_lastClauses (keeps : KeepsClauses collection selection sorting)
    (delete : tree.delete) :
    ∃ rest, "REMOVE" :: "e" :: rest ∈ lastClauses collection tree sorting := by
  refine ⟨"IN" :: words collection, List.mem_append_right _ (List.mem_append_right _ ?_)⟩
  rw [clauses_action keeps.collection, if_pos delete]
  exact List.mem_cons_self

theorem not_opensWith_collect_of_mem (keeps : KeepsClauses collection selection sorting)
    {clause : List String} (member : clause ∈ lastClauses collection tree sorting) :
    ¬ OpensWith "COLLECT" clause := by
  cases isLast_of_mem keeps member
  all_goals
    rw [opensWith_cons]
    decide

theorem refersTo_iff_of_mem (keeps : KeepsClauses collection selection sorting)
    (counting : tree.countProjection) {clause : List String}
    (member : clause ∈ lastClauses collection tree sorting) :
    RefersTo "e" clause ↔ OpensWith "SORT" clause ∨ OpensWith "REMOVE" clause := by
  cases isLast_of_mem keeps member with
  | sort rest =>
    exact iff_of_true (refersTo_second (by decide) _ _) (Or.inl (opensWith_cons.mpr (by decide)))
  | limit count =>
    rw [opensWith_cons, opensWith_cons]
    refine iff_of_false (fun refers => ?_) (by decide)
    have named : "e" ∈ words (toString count) :=
      (List.mem_cons.mp refers.mem).resolve_left (by decide)
    have digit : 'e'.isDigit := isDigit_of_mem_keyText (mem_of_mem_words named (by decide))
    exact absurd digit (by decide)
  | removal rest =>
    exact iff_of_true (refersTo_second (by decide) _ _) (Or.inr (opensWith_cons.mpr (by decide)))
  | result =>
    rw [if_pos counting]
    exact iff_of_false (fun refers => absurd refers.mem (by decide)) (by decide)

theorem not_opensWith_collect_of_mem_head (keeps : KeepsClauses collection selection sorting)
    {clause : List String} (member : clause ∈ clauses (head collection selection)) :
    ¬ OpensWith "COLLECT" clause := by
  intro opens
  obtain ⟨word, inside, same⟩ := exists_word_of_opensWith member opens
  exact lacksCollect_head keeps word inside same

theorem hasClause_collect_iff (keeps : KeepsClauses collection selection sorting) :
    HasClause "COLLECT" (assemble collection selection tree sorting) ↔ tree.countProjection := by
  unfold HasClause
  rw [clauses_assemble]
  constructor
  · rintro ⟨clause, member, opens⟩
    rcases List.mem_append.mp member with before | behind
    · exact absurd opens (not_opensWith_collect_of_mem_head keeps before)
    · rcases List.mem_append.mp behind with collect | last
      · by_contra plain
        rw [clauses_collect, if_neg plain] at collect
        cases collect
      · exact absurd opens (not_opensWith_collect_of_mem keeps last)
  · intro counting
    refine ⟨["COLLECT", "WITH", "COUNT", "INTO", "length"], ?_, by decide⟩
    rw [clauses_collect, if_pos counting]
    refine List.mem_append_right _ (List.mem_append_left _ ?_)
    split <;> simp

theorem dropWhile_of_lacksCollect {front : List (List String)}
    (lacks : ∀ clause ∈ front, ¬ OpensWith "COLLECT" clause) (back : List (List String)) :
    (front ++ back).dropWhile (fun clause => !decide (OpensWith "COLLECT" clause)) =
      back.dropWhile fun clause => !decide (OpensWith "COLLECT" clause) :=
  List.dropWhile_append_of_pos fun clause member => by simp [lacks clause member]

theorem behindCollect_assemble (keeps : KeepsClauses collection selection sorting) :
    behindCollect (assemble collection selection tree sorting) =
      if tree.countProjection then
        (if tree.distinct then [["COLLECT", "WITH", "COUNT", "INTO", "length"]] else []) ++
          lastClauses collection tree sorting
      else [] := by
  unfold behindCollect
  rw [clauses_assemble,
    dropWhile_of_lacksCollect fun _ => not_opensWith_collect_of_mem_head keeps, clauses_collect]
  split
  · split <;> rfl
  · have lacks : ∀ clause ∈ lastClauses collection tree sorting, ¬ OpensWith "COLLECT" clause :=
      fun clause => not_opensWith_collect_of_mem keeps
    have last := dropWhile_of_lacksCollect lacks []
    rw [List.append_nil] at last
    show ((lastClauses collection tree sorting).dropWhile _).drop 1 = []
    rw [last]
    rfl

example :
    behindCollect
        "FOR e IN people COLLECT WITH COUNT INTO length SORT e.age ASC LIMIT 3 RETURN length" =
      [["SORT", "e", ".", "age", "ASC"], ["LIMIT", "3"], ["RETURN", "length"]] := by decide

theorem mem_behindCollect_iff (keeps : KeepsClauses collection selection sorting)
    (counting : tree.countProjection) {clause : List String} :
    clause ∈ behindCollect (assemble collection selection tree sorting) ↔
      (tree.distinct ∧ clause = ["COLLECT", "WITH", "COUNT", "INTO", "length"]) ∨
        clause ∈ lastClauses collection tree sorting := by
  rw [behindCollect_assemble keeps, if_pos counting, List.mem_append]
  cases tree.distinct <;> simp

theorem refersTo_iff_of_mem_behindCollect (keeps : KeepsClauses collection selection sorting)
    (counting : tree.countProjection) :
    ∀ clause ∈ behindCollect (assemble collection selection tree sorting),
      RefersTo "e" clause ↔ OpensWith "SORT" clause ∨ OpensWith "REMOVE" clause := by
  intro clause member
  rcases (mem_behindCollect_iff keeps counting).mp member with ⟨-, rfl⟩ | last
  · exact iff_of_false (fun refers => absurd refers.mem (by decide)) (by decide)
  · exact refersTo_iff_of_mem keeps counting last

theorem exists_behindCollect_iff (keeps : KeepsClauses collection selection sorting)
    (counting : tree.countProjection) {keyword : String} {P : Prop}
    (count : ¬ OpensWith keyword ["COLLECT", "WITH", "COUNT", "INTO", "length"])
    (only : ∀ clause, IsLast tree sorting clause → OpensWith keyword clause → P)
    (one : P → ∃ clause ∈ lastClauses collection tree sorting, OpensWith keyword clause) :
    (∃ clause ∈ behindCollect (assemble collection selection tree sorting),
      OpensWith keyword clause) ↔ P := by
  simp only [mem_behindCollect_iff keeps counting]
  constructor
  · rintro ⟨clause, ⟨-, rfl⟩ | last, opens⟩
    · exact absurd opens count
    · exact only clause (isLast_of_mem keeps last) opens
  · intro given
    obtain ⟨clause, last, opens⟩ := one given
    exact ⟨clause, Or.inr last, opens⟩

theorem exists_sort_behindCollect_iff (keeps : KeepsClauses collection selection sorting)
    (counting : tree.countProjection) :
    (∃ clause ∈ behindCollect (assemble collection selection tree sorting),
      OpensWith "SORT" clause) ↔ ∃ sort ∈ sorting, sort.keys ≠ [] := by
  refine exists_behindCollect_iff keeps counting (by decide) ?_ fun keys => ?_
  · intro clause last opens
    cases last with
    | sort rest keys => exact keys
    | _ => exact absurd (opensWith_cons.mp opens) (by decide)
  · obtain ⟨rest, member⟩ := exists_sort_mem_lastClauses keeps keys
    exact ⟨_, member, opensWith_cons.mpr (by decide)⟩

theorem exists_removal_behindCollect_iff (keeps : KeepsClauses collection selection sorting)
    (counting : tree.countProjection) :
    (∃ clause ∈ behindCollect (assemble collection selection tree sorting),
      OpensWith "REMOVE" clause) ↔ tree.delete := by
  refine exists_behindCollect_iff keeps counting (by decide) ?_ fun delete => ?_
  · intro clause last opens
    cases last with
    | removal rest delete => exact delete
    | _ => exact absurd (opensWith_cons.mp opens) (by decide)
  · obtain ⟨rest, member⟩ := exists_removal_mem_lastClauses keeps delete
    exact ⟨_, member, opensWith_cons.mpr (by decide)⟩

theorem isWellScoped_iff_of_count (keeps : KeepsClauses collection selection sorting)
    (counting : tree.countProjection) :
    IsWellScoped (assemble collection selection tree sorting) ↔
      (∀ sort ∈ sorting, sort.keys = []) ∧ tree.delete = false := by
  have sorts := exists_sort_behindCollect_iff keeps counting
  have removes := exists_removal_behindCollect_iff keeps counting
  have uses := refersTo_iff_of_mem_behindCollect keeps counting
  constructor
  · intro closed
    constructor
    · intro sort given
      by_contra keys
      obtain ⟨clause, member, opens⟩ := sorts.mpr ⟨sort, given, keys⟩
      exact closed clause member ((uses clause member).mpr (Or.inl opens))
    · rw [← Bool.not_eq_true, ← removes]
      rintro ⟨clause, member, opens⟩
      exact closed clause member ((uses clause member).mpr (Or.inr opens))
  · intro bare clause member refers
    obtain ⟨unsorted, kept⟩ := bare
    rcases (uses clause member).mp refers with sort | removal
    · obtain ⟨sort, given, keys⟩ := sorts.mp ⟨clause, member, sort⟩
      exact keys (unsorted sort given)
    · have delete := removes.mp ⟨clause, member, removal⟩
      rw [kept] at delete
      cases delete

theorem isWellScoped_iff (keeps : KeepsClauses collection selection sorting) :
    IsWellScoped (assemble collection selection tree sorting) ↔
      (tree.countProjection → (∀ sort ∈ sorting, sort.keys = []) ∧ tree.delete = false) := by
  by_cases counting : tree.countProjection
  · rw [isWellScoped_iff_of_count keeps counting]
    exact ⟨fun bare _ => bare, fun bare => bare counting⟩
  · refine iff_of_true ?_ (absurd · counting)
    unfold IsWellScoped
    rw [behindCollect_assemble keeps, if_neg counting]
    exact nofun

end

/-- A query has a COLLECT clause if it counts. Behind it the variable of the loop is used by the
clause of a sort with keys and by a removal, and by no other clause, so that it is not used where it
is out of scope if there is neither. -/
theorem scope_ends_at_collect {collection : String} {selection : Selection} {tree : PartTree}
    {sorting : Option Sorting} (keeps : KeepsClauses collection selection sorting) :
    (HasClause "COLLECT" (assemble collection selection tree sorting) ↔ tree.countProjection) ∧
    (tree.countProjection →
      (∀ clause ∈ behindCollect (assemble collection selection tree sorting),
        RefersTo "e" clause ↔ OpensWith "SORT" clause ∨ OpensWith "REMOVE" clause) ∧
      ((∃ clause ∈ behindCollect (assemble collection selection tree sorting),
        OpensWith "SORT" clause) ↔ ∃ sort ∈ sorting, sort.keys ≠ []) ∧
      ((∃ clause ∈ behindCollect (assemble collection selection tree sorting),
        OpensWith "REMOVE" clause) ↔ tree.delete)) ∧
    (IsWellScoped (assemble collection selection tree sorting) ↔
      (tree.countProjection → (∀ sort ∈ sorting, sort.keys = []) ∧ tree.delete = false)) := by
  refine ⟨hasClause_collect_iff keeps, fun counting => ⟨?_, ?_, ?_⟩, isWellScoped_iff keeps⟩
  · exact refersTo_iff_of_mem_behindCollect keeps counting
  · exact exists_sort_behindCollect_iff keeps counting
  · exact exists_removal_behindCollect_iff keeps counting

def nearPlaces : Selection where
  source := some "(FOR e IN NEAR(places, @0, @1) RETURN UNSET(e, '_distance'))"
  predicate := some "e.name == @2"

def distinctCount : PartTree := { countProjection := true, distinct := true, maxResults := some 3 }

theorem distinct_near_count_is_well_scoped :
    KeepsClauses "places" nearPlaces (some .unsorted) ∧
    HasClause "COLLECT" (assemble "places" nearPlaces distinctCount (some .unsorted)) ∧
    IsWellScoped (assemble "places" nearPlaces distinctCount (some .unsorted)) := by
  have keeps : KeepsClauses "places" nearPlaces (some .unsorted) := by
    refine ⟨by decide, ?_, ?_, ?_⟩
    · intro text given
      cases given
      decide
    · intro text given
      cases given
      decide
    · intro sort given
      cases given
      exact nofun
  obtain ⟨collects, -, closed⟩ := @scope_ends_at_collect _ _ distinctCount _ keeps
  refine ⟨keeps, collects.mpr rfl, closed.mpr fun _ => ⟨?_, rfl⟩⟩
  intro sort given
  cases given
  rfl

/-- Documents that are counted, sorted and removed: the last two use the variable of the loop,
although no text has keywords. -/
theorem not_all_queries_are_well_scoped :
    ¬ ∀ (collection : String) (selection : Selection) (tree : PartTree) (sorting : Option Sorting),
      LacksKeywords collection → (∀ text ∈ selection.source, LacksKeywords text) →
      (∀ text ∈ selection.predicate, LacksKeywords text) →
      (∀ sort ∈ sorting, ∀ key ∈ sort.keys, LacksKeywords key.property) →
      IsWellScoped (assemble collection selection tree sorting) := by
  intro all
  have plain : ∀ sort ∈ some (Sorting.mk [⟨"age", .ascending⟩]), ∀ key ∈ sort.keys,
      LacksKeywords key.property := by
    rintro sort ⟨⟩ key member
    cases List.mem_singleton.mp member
    decide
  have closed := all "people" {} { countProjection := true, delete := true } _ (by decide)
    nofun nofun plain
  exact closed ["SORT", "e", ".", "age", "ASC"] (by decide) (refersTo_second (by decide) _ _)

end Query

end FinderQuery
