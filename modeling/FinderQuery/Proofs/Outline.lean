import FinderQuery.Query
import Mathlib.Data.List.Basic

namespace FinderQuery

namespace Fragment

def source? : Fragment → Option String
  | source text => some text
  | predicate _ => none

def predicate? : Fragment → Option String
  | source _ => none
  | predicate text => some text

theorem isSome_head?_sources (fragments : List Fragment) :
    (fragments.filterMap source?).head?.isSome = fragments.any isSource := by
  induction fragments with
  | nil => rfl
  | cons fragment rest ih =>
    cases fragment with
    | source text => rfl
    | predicate text =>
      simp only [List.filterMap_cons, source?, List.any_cons, isSource, Bool.false_or]
      exact ih

theorem source?_eq_some_iff {fragment : Fragment} {text : String} :
    fragment.source? = some text ↔ fragment = source text := by
  cases fragment <;> simp [source?]

theorem predicate?_eq_some_iff {fragment : Fragment} {text : String} :
    fragment.predicate? = some text ↔ fragment = predicate text := by
  cases fragment <;> simp [predicate?]

theorem mem_sources_iff {fragments : List Fragment} {text : String} :
    text ∈ fragments.filterMap source? ↔ source text ∈ fragments := by
  simp only [List.mem_filterMap, source?_eq_some_iff, exists_eq_right]

theorem mem_predicates_iff {fragments : List Fragment} {text : String} :
    text ∈ fragments.filterMap predicate? ↔ predicate text ∈ fragments := by
  simp only [List.mem_filterMap, predicate?_eq_some_iff, exists_eq_right]

theorem mem_head?_sources_iff {fragments : List Fragment}
    (single : fragments.countP isSource ≤ 1) {text : String} :
    text ∈ (fragments.filterMap source?).head? ↔ source text ∈ fragments := by
  have short : (fragments.filterMap source?).length ≤ 1 := by
    rw [List.length_filterMap_eq_countP]
    refine Nat.le_trans (Nat.le_of_eq (List.countP_congr fun fragment _ => ?_)) single
    cases fragment <;> simp [source?, isSource]
  rw [← mem_sources_iff]
  generalize fragments.filterMap source? = texts at short
  rcases texts with _ | ⟨text, _ | ⟨second, rest⟩⟩
  · simp
  · simp [eq_comm]
  · simp at short

end Fragment

/-- Where the documents of a query come from, if not from the collection, and the alternatives of
which one has to hold: each is a list of clauses that hold together. -/
structure Outline where
  source : Option String
  alternatives : List (List String)
  deriving DecidableEq

namespace Outline

/-- A group without predicates is no alternative. -/
def ofFragments (groups : List (List Fragment)) : Outline where
  source := (groups.flatten.filterMap Fragment.source?).head?
  alternatives := (groups.map (·.filterMap Fragment.predicate?)).filter (! ·.isEmpty)

def selection (outline : Outline) : Selection where
  source := outline.source
  predicate :=
    if outline.alternatives.isEmpty then none
    else some (" OR ".intercalate (outline.alternatives.map (" AND ".intercalate ·)))

theorem flatten_alternatives (groups : List (List Fragment)) :
    (ofFragments groups).alternatives.flatten = groups.flatten.filterMap Fragment.predicate? := by
  rw [ofFragments, List.flatten_filter_not_isEmpty, List.filterMap_flatten]

theorem exists_source_or_clause_iff {groups : List (List Fragment)}
    (single : groups.flatten.countP Fragment.isSource ≤ 1) {P : String → Prop} :
    ((∃ source ∈ (ofFragments groups).source, P source) ∨
      ∃ clause ∈ (ofFragments groups).alternatives.flatten, P clause) ↔
      ∃ fragment ∈ groups.flatten, P fragment.text := by
  rw [flatten_alternatives, ofFragments]
  simp only [Fragment.mem_head?_sources_iff single, Fragment.mem_predicates_iff]
  apply Iff.intro
  · intro given
    rcases given with ⟨text, member, holds⟩ | ⟨text, member, holds⟩
    · exact ⟨_, member, holds⟩
    · exact ⟨_, member, holds⟩
  · intro given
    rcases given with ⟨fragment | fragment, member, holds⟩
    · exact Or.inl ⟨fragment, member, holds⟩
    · exact Or.inr ⟨fragment, member, holds⟩

end Outline

namespace Selection

theorem intercalate_ne_empty (separator : String) {texts : List String} (some : texts ≠ [])
    (nonempty : ∀ text ∈ texts, text ≠ "") : separator.intercalate texts ≠ "" := by
  cases texts with
  | nil => exact absurd rfl some
  | cons text rest =>
    have first := nonempty text (by simp)
    by_cases alone : rest = []
    · rw [alone, String.intercalate_singleton]
      exact first
    · rw [String.intercalate_cons_of_ne_nil alone]
      intro empty
      exact first (String.append_eq_empty_iff.mp (String.append_eq_empty_iff.mp empty).1).1

theorem join_of_nonempty (separator : String) {texts : List String}
    (nonempty : ∀ text ∈ texts, text ≠ "") :
    join separator texts =
      if texts.isEmpty then none else some (separator.intercalate texts) := by
  have kept : texts.filter (! ·.isEmpty) = texts := by
    refine List.filter_eq_self.mpr fun text member => ?_
    simpa using nonempty text member
  unfold join
  rw [kept]
  cases texts <;> rfl

namespace Builder

/-- What has been collected once a selection is added, whose source is the first if it has one. -/
def joined (builder : Builder) (item : Selection) : Builder where
  source := builder.source.or item.source
  predicates := builder.predicates ++ item.predicate.toList

theorem tryAdd_of_taken {builder : Builder} {item : Selection}
    (taken : builder.source.isSome ∧ item.source.isSome) :
    builder.tryAdd item = (.error .multipleGeoSources, builder) := by
  obtain ⟨present, offered⟩ := taken
  obtain ⟨source, same⟩ := Option.isSome_iff_exists.mp offered
  simp only [tryAdd, putSource, same, present, if_true]

theorem tryAdd_of_free {builder : Builder} {item : Selection}
    (free : ¬ (builder.source.isSome ∧ item.source.isSome)) :
    builder.tryAdd item = (.ok (), builder.joined item) := by
  obtain ⟨source, predicates⟩ := builder
  obtain ⟨offered, predicate⟩ := item
  cases offered with
  | none => simp [tryAdd, putSource, putPredicate, joined]
  | some text =>
    cases source with
    | none => simp [tryAdd, putSource, putPredicate, joined]
    | some source => exact absurd ⟨rfl, rfl⟩ free

theorem add_of_taken {builder : Builder} {item : Selection}
    (taken : builder.source.isSome ∧ item.source.isSome) :
    builder.add item = .error .multipleGeoSources := by
  rw [add, tryAdd_of_taken taken]

theorem add_of_free {builder : Builder} {item : Selection}
    (free : ¬ (builder.source.isSome ∧ item.source.isSome)) :
    builder.add item = .ok (builder.joined item) := by
  rw [add, tryAdd_of_free free]

def collect (builder : Builder) (fragments : List Fragment) : Builder where
  source := builder.source.or (fragments.filterMap Fragment.source?).head?
  predicates := builder.predicates ++ fragments.filterMap Fragment.predicate?

@[simp] theorem collect_nil (builder : Builder) : builder.collect [] = builder := by
  simp [collect]

theorem collect_append (builder : Builder) (front back : List Fragment) :
    builder.collect (front ++ back) = (builder.collect front).collect back := by
  simp [collect, Option.or_assoc]

theorem isSome_source_collect (builder : Builder) (fragments : List Fragment) :
    (builder.collect fragments).source.isSome =
      (builder.source.isSome || fragments.any Fragment.isSource) := by
  rw [collect, Option.isSome_or, Fragment.isSome_head?_sources]

theorem isSome_source_selection (fragment : Fragment) :
    fragment.selection.source.isSome = fragment.isSource := by
  cases fragment <;> rfl

theorem add_fragment_of_free (builder : Builder) (fragment : Fragment)
    (free : ¬ (builder.source.isSome ∧ fragment.isSource)) :
    builder.add fragment.selection = .ok (builder.collect [fragment]) := by
  rw [← isSome_source_selection] at free
  rw [add_of_free free]
  cases fragment <;> rfl

theorem add_fragment_of_taken (builder : Builder) (fragment : Fragment)
    (taken : builder.source.isSome ∧ fragment.isSource) :
    builder.add fragment.selection = .error .multipleGeoSources := by
  rw [← isSome_source_selection] at taken
  exact add_of_taken taken

def collectGroups (builder : Builder) (groups : List (List Fragment)) : Builder where
  source := builder.source.or (groups.flatten.filterMap Fragment.source?).head?
  predicates := builder.predicates ++
    groups.filterMap fun group => join " AND " (group.filterMap Fragment.predicate?)

@[simp] theorem collectGroups_nil (builder : Builder) : builder.collectGroups [] = builder := by
  simp [collectGroups]

theorem collectGroups_append (builder : Builder) (front back : List (List Fragment)) :
    builder.collectGroups (front ++ back) = (builder.collectGroups front).collectGroups back := by
  simp [collectGroups, Option.or_assoc]

theorem conjunction_collect (group : List Fragment) :
    (({} : Builder).collect group).conjunction =
      ⟨(group.filterMap Fragment.source?).head?,
        join " AND " (group.filterMap Fragment.predicate?)⟩ := by
  simp [collect, conjunction, build]

theorem isSome_source_collectGroups (builder : Builder) (groups : List (List Fragment)) :
    (builder.collectGroups groups).source.isSome =
      (builder.source.isSome || groups.flatten.any Fragment.isSource) := by
  rw [collectGroups, Option.isSome_or, Fragment.isSome_head?_sources]

theorem add_group_of_free (builder : Builder) (group : List Fragment)
    (free : ¬ (builder.source.isSome ∧ group.any Fragment.isSource)) :
    builder.add (({} : Builder).collect group).conjunction =
      .ok (builder.collectGroups [group]) := by
  rw [← Fragment.isSome_head?_sources] at free
  rw [conjunction_collect, add_of_free free]
  cases found : join " AND " (group.filterMap Fragment.predicate?) <;>
    simp [collectGroups, joined, found]

theorem add_group_of_taken (builder : Builder) (group : List Fragment)
    (taken : builder.source.isSome ∧ group.any Fragment.isSource) :
    builder.add (({} : Builder).collect group).conjunction = .error .multipleGeoSources := by
  rw [← Fragment.isSome_head?_sources] at taken
  rw [conjunction_collect, add_of_taken taken]

theorem predicates_ne_empty {fragments : List Fragment}
    (nonempty : ∀ fragment ∈ fragments, fragment.text ≠ "") :
    ∀ text ∈ fragments.filterMap Fragment.predicate?, text ≠ "" :=
  fun _ member => nonempty _ (Fragment.mem_predicates_iff.mp member)

theorem join_groups {groups : List (List Fragment)}
    (nonempty : ∀ fragment ∈ groups.flatten, fragment.text ≠ "") :
    groups.filterMap (fun group => join " AND " (group.filterMap Fragment.predicate?)) =
      (Outline.ofFragments groups).alternatives.map (" AND ".intercalate ·) := by
  induction groups with
  | nil => rfl
  | cons group rest ih =>
    rw [List.flatten_cons, List.forall_mem_append] at nonempty
    have first := join_of_nonempty " AND " (predicates_ne_empty nonempty.1)
    have others := ih nonempty.2
    simp only [Outline.ofFragments] at others
    simp only [Outline.ofFragments, List.filterMap_cons, List.map_cons, List.filter_cons, first,
      others]
    cases group.filterMap Fragment.predicate? <;> simp

theorem alternatives_ne_empty {groups : List (List Fragment)}
    (nonempty : ∀ fragment ∈ groups.flatten, fragment.text ≠ "") :
    ∀ text ∈ (Outline.ofFragments groups).alternatives.map (" AND ".intercalate ·),
      text ≠ "" := by
  intro text member
  obtain ⟨alternative, found, rfl⟩ := List.mem_map.mp member
  obtain ⟨listed, filled⟩ := List.mem_filter.mp found
  obtain ⟨group, within, rfl⟩ := List.mem_map.mp listed
  have inGroup := fun fragment (inside : fragment ∈ group) =>
    nonempty fragment (List.mem_flatten_of_mem within inside)
  exact intercalate_ne_empty _ (by simpa using filled) (predicates_ne_empty inGroup)

/-- Collecting all groups of a query comes to its outline. -/
theorem disjunction_collectGroups (groups : List (List Fragment))
    (nonempty : ∀ fragment ∈ groups.flatten, fragment.text ≠ "") :
    (({} : Builder).collectGroups groups).disjunction =
      (Outline.ofFragments groups).selection := by
  have shape : (({} : Builder).collectGroups groups).disjunction =
      ⟨(groups.flatten.filterMap Fragment.source?).head?,
        join " OR " ((Outline.ofFragments groups).alternatives.map (" AND ".intercalate ·))⟩ := by
    simp [collectGroups, disjunction, build, join_groups nonempty]
  rw [shape, join_of_nonempty " OR " (alternatives_ne_empty nonempty)]
  simp [Outline.selection, Outline.ofFragments]

end Builder

end Selection

end FinderQuery
