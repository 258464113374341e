import FinderQuery.Proofs.Closed
import Mathlib.Data.Set.Lattice

namespace FinderQuery

open Argument

variable {Document : Type}

/-- The documents that a query with these clauses ranges over, among all those of its collection, if
a source stands for the documents that it yields and a predicate for those that it holds of. Without
alternatives there is no filter. -/
def Outline.documents (outline : Outline) (meaning : Fragment → Set Document) : Set Document :=
  {document |
    (∀ text ∈ outline.source, document ∈ meaning (.source text)) ∧
      (outline.alternatives = [] ∨ ∃ alternative ∈ outline.alternatives, ∀ text ∈ alternative,
        document ∈ meaning (.predicate text))}

def unionOfGroups (groups : List (List Fragment)) (meaning : Fragment → Set Document) :
    Set Document :=
  ⋃ group ∈ groups, ⋂ fragment ∈ group, meaning fragment

/-- The documents that satisfy the sources of all groups, and with them, if there are predicates,
all predicates of a group that has some. -/
def filteredSource (groups : List (List Fragment)) (meaning : Fragment → Set Document) :
    Set Document :=
  {document |
    (∀ text, Fragment.source text ∈ groups.flatten → document ∈ meaning (.source text)) ∧
      ((∃ text, Fragment.predicate text ∈ groups.flatten) →
        ∃ group ∈ groups, (∃ text, Fragment.predicate text ∈ group) ∧
          ∀ text, Fragment.predicate text ∈ group → document ∈ meaning (.predicate text))}

namespace Outline

variable {groups : List (List Fragment)}

theorem mem_alternatives_iff {alternative : List String} :
    alternative ∈ (ofFragments groups).alternatives ↔
      ∃ group ∈ groups, alternative = group.filterMap Fragment.predicate? ∧
        ∃ text, Fragment.predicate text ∈ group := by
  simp only [ofFragments, List.mem_filter, List.mem_map]
  apply Iff.intro
  · intro given
    rcases given with ⟨⟨group, member, rfl⟩, filled⟩
    cases found : group.filterMap Fragment.predicate? with
    | nil => simp [found] at filled
    | cons text rest =>
      have listed : text ∈ group.filterMap Fragment.predicate? := by simp [found]
      exact ⟨group, member, found.symm, text, Fragment.mem_predicates_iff.mp listed⟩
  · intro given
    rcases given with ⟨group, member, rfl, text, listed⟩
    refine ⟨⟨group, member, rfl⟩, ?_⟩
    have some := List.ne_nil_of_mem (Fragment.mem_predicates_iff.mpr listed)
    simpa using some

theorem alternatives_eq_nil_iff :
    (ofFragments groups).alternatives = [] ↔
      ¬ ∃ text, Fragment.predicate text ∈ groups.flatten := by
  rw [List.eq_nil_iff_forall_not_mem]
  simp only [mem_alternatives_iff, List.mem_flatten]
  apply Iff.intro
  · intro none given
    rcases given with ⟨text, group, member, listed⟩
    exact none _ ⟨group, member, rfl, text, listed⟩
  · intro none alternative given
    rcases given with ⟨group, member, -, text, listed⟩
    exact none ⟨text, group, member, listed⟩

theorem documents_ofFragments (single : groups.flatten.countP Fragment.isSource ≤ 1)
    (meaning : Fragment → Set Document) :
    (ofFragments groups).documents meaning = filteredSource groups meaning := by
  ext document
  have sources : (∀ text ∈ (ofFragments groups).source, document ∈ meaning (.source text)) ↔
      ∀ text, Fragment.source text ∈ groups.flatten → document ∈ meaning (.source text) :=
    forall_congr' fun text => imp_congr_left (Fragment.mem_head?_sources_iff single)
  have filter : ((ofFragments groups).alternatives = [] ∨
        ∃ alternative ∈ (ofFragments groups).alternatives, ∀ text ∈ alternative,
          document ∈ meaning (.predicate text)) ↔
      ((∃ text, Fragment.predicate text ∈ groups.flatten) →
        ∃ group ∈ groups, (∃ text, Fragment.predicate text ∈ group) ∧
          ∀ text, Fragment.predicate text ∈ group → document ∈ meaning (.predicate text)) := by
    rw [alternatives_eq_nil_iff, ← imp_iff_not_or]
    refine imp_congr_right fun _ => ?_
    simp only [mem_alternatives_iff]
    apply Iff.intro
    · intro given
      rcases given with ⟨alternative, ⟨group, member, rfl, some⟩, all⟩
      exact ⟨group, member, some,
        fun text listed => all text (Fragment.mem_predicates_iff.mpr listed)⟩
    · intro given
      rcases given with ⟨group, member, some, all⟩
      exact ⟨_, ⟨group, member, rfl, some⟩,
        fun text listed => all text (Fragment.mem_predicates_iff.mp listed)⟩
  exact and_congr sources filter

end Outline

variable {groups : List (List Fragment)}

theorem mem_unionOfGroups_iff {meaning : Fragment → Set Document} {document : Document} :
    document ∈ unionOfGroups groups meaning ↔
      ∃ group ∈ groups, ∀ fragment ∈ group, document ∈ meaning fragment := by
  simp only [unionOfGroups, Set.mem_iUnion, Set.mem_iInter, exists_prop]

theorem exists_predicate_mem {group : List Fragment} (filled : group ≠ [])
    (none : ∀ text, Fragment.source text ∉ group) : ∃ text, Fragment.predicate text ∈ group := by
  obtain ⟨fragment, member⟩ := List.exists_mem_of_ne_nil group filled
  cases fragment with
  | source text => exact absurd member (none text)
  | predicate text => exact ⟨text, member⟩

theorem filteredSource_eq_of_no_source (filled : ∀ group ∈ groups, group ≠ []) (some : groups ≠ [])
    (none : ∀ text, Fragment.source text ∉ groups.flatten) (meaning : Fragment → Set Document) :
    filteredSource groups meaning = unionOfGroups groups meaning := by
  have noneIn : ∀ group ∈ groups, ∀ text, Fragment.source text ∉ group :=
    fun group member text listed => none text (List.mem_flatten_of_mem member listed)
  ext document
  rw [mem_unionOfGroups_iff]
  apply Iff.intro
  · intro given
    rcases given with ⟨-, filter⟩
    obtain ⟨first, member⟩ := List.exists_mem_of_ne_nil groups some
    obtain ⟨text, listed⟩ := exists_predicate_mem (filled first member) (noneIn first member)
    obtain ⟨group, member, -, all⟩ := filter ⟨text, List.mem_flatten_of_mem member listed⟩
    refine ⟨group, member, fun fragment listed => ?_⟩
    cases fragment with
    | source text => exact absurd listed (noneIn group member text)
    | predicate text => exact all text listed
  · intro given
    rcases given with ⟨group, member, all⟩
    exact ⟨fun text listed => absurd listed (none text),
      fun _ => ⟨group, member, exists_predicate_mem (filled group member) (noneIn group member),
        fun text listed => all _ listed⟩⟩

theorem filteredSource_singleton (group : List Fragment) (meaning : Fragment → Set Document) :
    filteredSource [group] meaning = unionOfGroups [group] meaning := by
  have alone : [group].flatten = group := by simp
  ext document
  rw [mem_unionOfGroups_iff, filteredSource, alone]
  apply Iff.intro
  · intro given
    rcases given with ⟨sources, filter⟩
    refine ⟨group, List.mem_singleton_self group, fun fragment listed => ?_⟩
    cases fragment with
    | source text => exact sources text listed
    | predicate text =>
      obtain ⟨other, member, -, all⟩ := filter ⟨text, listed⟩
      rw [List.mem_singleton.mp member] at all
      exact all text listed
  · intro given
    rcases given with ⟨other, member, all⟩
    rw [List.mem_singleton.mp member] at all
    exact ⟨fun text listed => all _ listed,
      fun some => ⟨group, List.mem_singleton_self group, some, fun text listed => all _ listed⟩⟩

theorem exists_group_without_source (single : groups.flatten.countP Fragment.isSource ≤ 1)
    (several : 1 < groups.length) : ∃ group ∈ groups, ∀ text, Fragment.source text ∉ group := by
  rcases groups with _ | ⟨first, _ | ⟨second, rest⟩⟩
  · simp at several
  · simp at several
  · rw [List.flatten_cons, List.flatten_cons, List.countP_append, List.countP_append] at single
    have free : ∀ group : List Fragment, group.countP Fragment.isSource = 0 →
        ∀ text, Fragment.source text ∉ group := by
      intro group zero text listed
      exact List.countP_eq_zero.mp zero _ listed rfl
    by_cases zero : first.countP Fragment.isSource = 0
    · exact ⟨first, by simp, free first zero⟩
    -- The only source is in the first group.
    · exact ⟨second, by simp, free second (by omega)⟩

/-- A source restricts the groups without one too. -/
theorem exists_filteredSource_ne (single : groups.flatten.countP Fragment.isSource ≤ 1)
    {text : String} (source : Fragment.source text ∈ groups.flatten) (several : 1 < groups.length) :
    ∃ meaning : Fragment → Set Unit,
      filteredSource groups meaning ≠ unionOfGroups groups meaning := by
  obtain ⟨group, member, none⟩ := exists_group_without_source single several
  -- Let the source yield nothing and all predicates hold.
  refine ⟨fun fragment => {_document | fragment.isSource = false}, fun same => ?_⟩
  have inUnion : () ∈ unionOfGroups groups
      fun fragment => {_document | fragment.isSource = false} := by
    refine mem_unionOfGroups_iff.mpr ⟨group, member, fun fragment listed => ?_⟩
    cases fragment with
    | source text => exact absurd listed (none text)
    | predicate text => rfl
  rw [← same] at inUnion
  exact Bool.noConfusion (inUnion.1 text source)

theorem filteredSource_eq_unionOfGroups_iff (filled : ∀ group ∈ groups, group ≠ [])
    (single : groups.flatten.countP Fragment.isSource ≤ 1) :
    (∀ (Document : Type) (meaning : Fragment → Set Document),
      filteredSource groups meaning = unionOfGroups groups meaning) ↔
      groups ≠ [] ∧ (groups.flatten.any Fragment.isSource → groups.length = 1) := by
  have noneOf : groups.flatten.any Fragment.isSource = false →
      ∀ text, Fragment.source text ∉ groups.flatten := by
    intro none text listed
    exact Bool.noConfusion (none.symm.trans (List.any_eq_true.mpr ⟨_, listed, rfl⟩))
  apply Iff.intro
  · intro same
    have some : groups ≠ [] := by
      intro same
      subst same
      have all : () ∈ filteredSource [] fun _ => (∅ : Set Unit) := by simp [filteredSource]
      rw [same, mem_unionOfGroups_iff] at all
      simp at all
    refine ⟨some, fun source => ?_⟩
    by_contra several
    have positive := List.length_pos_iff.mpr some
    obtain ⟨fragment, listed, isSource⟩ := List.any_eq_true.mp source
    cases fragment with
    | source text =>
      obtain ⟨meaning, differs⟩ := exists_filteredSource_ne single listed (by omega)
      exact differs (same Unit meaning)
    | predicate text => cases isSource
  · intro given Document meaning
    rcases given with ⟨some, alone⟩
    cases source : groups.flatten.any Fragment.isSource with
    | false => exact filteredSource_eq_of_no_source filled some (noneOf source) meaning
    | true =>
      obtain ⟨group, rfl⟩ := List.length_eq_one_iff.mp (alone source)
      exact filteredSource_singleton group meaning

namespace Reference

variable {target : Compile.Target} {arguments : List Argument} {tree : List (List Part)}

theorem clauses_eq_ok_iff :
    clauses target arguments tree = .ok groups ↔
      ∃ contributions, Reference.groups target arguments [] tree = .ok contributions ∧
        groups = contributions.map (·.map Contribution.fragment) := map_eq_ok_iff

theorem countP_isSource_of_clauses (run : clauses target arguments tree = .ok groups) :
    groups.flatten.countP Fragment.isSource ≤ 1 := by
  obtain ⟨contributions, built, rfl⟩ := clauses_eq_ok_iff.mp run
  rw [flatten_fragments]
  exact countP_isSource_le_one built

theorem any_isSource_of_clauses (run : clauses target arguments tree = .ok groups) :
    groups.flatten.any Fragment.isSource = anyGeo tree.flatten := by
  obtain ⟨contributions, built, rfl⟩ := clauses_eq_ok_iff.mp run
  rw [flatten_fragments]
  exact any_isSource built

theorem map_length_of_clauses (run : clauses target arguments tree = .ok groups) :
    tree.map List.length = groups.map List.length := by
  obtain ⟨contributions, built, rfl⟩ := clauses_eq_ok_iff.mp run
  have lengths : tree.map List.length = contributions.map List.length :=
    map_eq_of_forall₂ ((forall₂_isSource built).imp fun _ _ same => same.length_eq)
  simp only [lengths, List.map_map, Function.comp_def, List.length_map]

theorem ne_nil_of_clauses (run : clauses target arguments tree = .ok groups)
    (filled : ∀ parts ∈ tree, parts ≠ []) : ∀ group ∈ groups, group ≠ [] := by
  intro group member
  have length : group.length ∈ tree.map List.length := by
    rw [map_length_of_clauses run]
    exact List.mem_map_of_mem member
  obtain ⟨parts, member, same⟩ := List.mem_map.mp length
  have positive := List.length_pos_iff.mpr (filled parts member)
  rw [same] at positive
  exact List.length_pos_iff.mp positive

end Reference

/-- A query ranges over what its source yields, as far as the predicates of one group hold of it.
This is the union of the groups exactly if there is a group, and only one if there is a geo part. -/
theorem compiled_documents {metadata : Metadata} {entity : String} {tree : PartTree}
    {arguments : List Argument} {sorting : Option Sorting} {query : CompiledQuery}
    (run : (compile metadata entity tree arguments sorting).result = .ok query)
    (filled : ∀ group ∈ tree.groups, group ≠ []) :
    ∃ collection groups,
      metadata.collectionName entity = .ok collection ∧
      Reference.clauses ⟨metadata, entity, collection⟩ arguments tree.groups = .ok groups ∧
      query.text = " ".intercalate
        ((Outline.ofFragments groups).wording collection ++ tree.wording collection sorting) ∧
      (∀ (Document : Type) (meaning : Fragment → Set Document),
        (Outline.ofFragments groups).documents meaning = filteredSource groups meaning) ∧
      ((∀ (Document : Type) (meaning : Fragment → Set Document),
        (Outline.ofFragments groups).documents meaning = unionOfGroups groups meaning) ↔
          tree.groups ≠ [] ∧ (anyGeo tree.parts → tree.groups.length = 1)) := by
  obtain ⟨collection, contributions, registered, built, rfl⟩ := compile_eq_ok_iff.mp run
  have clauses : Reference.clauses ⟨metadata, entity, collection⟩ arguments tree.groups =
      .ok (contributions.map (·.map Contribution.fragment)) :=
    Reference.clauses_eq_ok_iff.mpr ⟨contributions, built, rfl⟩
  have single := Reference.countP_isSource_of_clauses clauses
  have documents {Document : Type} (meaning : Fragment → Set Document) :=
    Outline.documents_ofFragments single meaning
  have lengths := Reference.map_length_of_clauses clauses
  have count := congrArg List.length lengths
  rw [List.length_map, List.length_map] at count
  refine ⟨collection, _, registered, clauses,
    Reference.assemble_outline built collection tree sorting, fun _ => documents, ?_⟩
  simp only [documents]
  rw [filteredSource_eq_unionOfGroups_iff (Reference.ne_nil_of_clauses clauses filled) single,
    Reference.any_isSource_of_clauses clauses, ← count, ← List.length_pos_iff, ← count,
    List.length_pos_iff]
  rfl

theorem near_and_named_documents :
    ∃ groups,
      Reference.clauses ⟨placeCatalog, "Place", "places"⟩ [geoPoint origin, scalar (.string "x")]
        [[placePart "location" .near, placePart "name" .simpleProperty]] = .ok groups ∧
      ∀ (Document : Type) (meaning : Fragment → Set Document),
        (Outline.ofFragments groups).documents meaning = unionOfGroups groups meaning := by
  have run : (compile placeCatalog "Place"
      { groups := [[placePart "location" .near, placePart "name" .simpleProperty]] }
      [geoPoint origin, scalar (.string "x")] none).result =
      .ok ⟨"FOR e IN (FOR e IN NEAR(places, @0, @1) RETURN UNSET(e, '_distance')) " ++
          "FILTER e.name == @2 RETURN e",
        .ofValues [.float origin.x, .float origin.y, .string "x"]⟩ := rfl
  obtain ⟨collection, groups, registered, clauses, -, -, same⟩ := compiled_documents run (by simp)
  cases registered
  exact ⟨groups, clauses, same.mpr ⟨by simp, fun _ => rfl⟩⟩

/-- Near in one group takes documents away from the other group. -/
theorem not_all_documents_are_unions :
    ¬ ∀ (catalog : Catalog) (entity : String) (tree : PartTree) (arguments : List Argument)
      (sorting : Option Sorting) (query : CompiledQuery),
      (compile catalog entity tree arguments sorting).result = .ok query →
        (∀ group ∈ tree.groups, group ≠ []) →
          ∀ collection groups, catalog.collectionName entity = .ok collection →
            Reference.clauses ⟨catalog, entity, collection⟩ arguments tree.groups = .ok groups →
              ∀ (Document : Type) (meaning : Fragment → Set Document),
                (Outline.ofFragments groups).documents meaning = unionOfGroups groups meaning := by
  intro all
  have same := all placeCatalog "Place"
    { groups := [[placePart "location" .near], [placePart "name" .simpleProperty]] }
    [geoPoint origin, scalar (.string "x")] none
    ⟨"FOR e IN (FOR e IN NEAR(places, @0, @1) RETURN UNSET(e, '_distance')) " ++
        "FILTER e.name == @2 RETURN e",
      .ofValues [.float origin.x, .float origin.y, .string "x"]⟩
    rfl (by simp) "places"
    [[.source "(FOR e IN NEAR(places, @0, @1) RETURN UNSET(e, '_distance'))"],
      [.predicate "e.name == @2"]]
    rfl rfl Unit fun fragment => {_document | fragment.isSource = false}
  have named : () ∈ unionOfGroups
      [[.source "(FOR e IN NEAR(places, @0, @1) RETURN UNSET(e, '_distance'))"],
        [.predicate "e.name == @2"]]
      fun fragment => {_document | fragment.isSource = false} := by
    refine mem_unionOfGroups_iff.mpr
      ⟨[.predicate "e.name == @2"], by simp, fun fragment listed => ?_⟩
    cases List.mem_singleton.mp listed
    rfl
  rw [← same] at named
  exact Bool.noConfusion (named.1 _ rfl)

end FinderQuery
