import FinderQuery.Proofs.Outline

namespace FinderQuery

namespace Selection

structure Addition where
  item : Selection
  before : Builder
  outcome : Except CompileError Unit
  after : Builder

def accepted (additions : List Addition) : List Selection :=
  (additions.filter (·.outcome.isOk)).map Addition.item

theorem accepted_cons_ok (item : Selection) (before after : Builder) (rest : List Addition) :
    accepted (⟨item, before, .ok (), after⟩ :: rest) = item :: accepted rest := rfl

theorem accepted_cons_error (item : Selection) (before after : Builder) (error : CompileError)
    (rest : List Addition) :
    accepted (⟨item, before, .error error, after⟩ :: rest) = accepted rest := rfl

namespace Builder

def addition (builder : Builder) (item : Selection) : Addition :=
  ⟨item, builder, (builder.tryAdd item).1, (builder.tryAdd item).2⟩

def run : Builder → List Selection → List Addition
  | _, [] => []
  | builder, item :: rest => builder.addition item :: run (builder.addition item).after rest

def behind : Builder → List Addition → Builder
  | builder, [] => builder
  | _, addition :: rest => behind addition.after rest

/-- An addition fails on a second source and changes nothing, or else adds all of its selection. -/
theorem addition_cases (builder : Builder) (item : Selection) :
    ((builder.source.isSome ∧ item.source.isSome) ∧
        builder.addition item = ⟨item, builder, .error .multipleGeoSources, builder⟩) ∨
      (¬ (builder.source.isSome ∧ item.source.isSome) ∧
        builder.addition item = ⟨item, builder, .ok (), builder.joined item⟩) := by
  by_cases taken : builder.source.isSome ∧ item.source.isSome
  · exact Or.inl ⟨taken, by rw [addition, tryAdd_of_taken taken]⟩
  · exact Or.inr ⟨taken, by rw [addition, tryAdd_of_free taken]⟩

/-- A compilation ends with the first addition that fails, and so does not look at the builder that
this one leaves. -/
theorem add_eq (builder : Builder) (item : Selection) :
    builder.add item =
      (builder.addition item).outcome.map fun _ => (builder.addition item).after := by
  rw [add, addition]
  rcases builder.tryAdd item with ⟨_ | _, after⟩ <;> rfl

theorem map_item_run (builder : Builder) (items : List Selection) :
    (run builder items).map Addition.item = items := by
  induction items generalizing builder with
  | nil => rfl
  | cons item rest ih => rw [run, List.map_cons, ih, addition]

theorem run_split {builder : Builder} {items : List Selection} {done later : List Addition}
    {addition : Addition} (split : run builder items = done ++ addition :: later) :
    ∃ front, done = run builder front ∧
      addition = (behind builder done).addition addition.item := by
  induction done generalizing builder items with
  | nil =>
    cases items with
    | nil => cases split
    | cons item rest =>
      obtain ⟨rfl, -⟩ := List.cons.inj split
      exact ⟨[], rfl, rfl⟩
  | cons first done ih =>
    cases items with
    | nil => cases split
    | cons item rest =>
      obtain ⟨rfl, tail⟩ := List.cons.inj split
      obtain ⟨front, same, here⟩ := ih tail
      exact ⟨item :: front, by rw [run, same], here⟩

theorem source_behind (builder : Builder) (items : List Selection) :
    (behind builder (run builder items)).source =
      builder.source.or (items.filterMap Selection.source).head? := by
  induction items generalizing builder with
  | nil => simp [run, behind]
  | cons item rest ih =>
    rw [run, behind, ih]
    rcases builder.addition_cases item with ⟨taken, failed⟩ | ⟨-, added⟩
    · obtain ⟨source, present⟩ := Option.isSome_iff_exists.mp taken.1
      rw [failed, present, Option.some_or, Option.some_or]
    · rw [added, joined, Option.or_assoc]
      cases offered : item.source <;> simp [offered]

theorem foldlM_add_accepted (builder : Builder) (items : List Selection) :
    (accepted (run builder items)).foldlM add builder =
      .ok (behind builder (run builder items)) := by
  induction items generalizing builder with
  | nil => rfl
  | cons item rest ih =>
    have first := builder.add_eq item
    rw [run, behind]
    rcases builder.addition_cases item with ⟨-, failed⟩ | ⟨-, added⟩
    · rw [failed, accepted_cons_error, ih]
    · rw [added] at first ⊢
      rw [accepted_cons_ok, List.foldlM_cons, first]
      exact ih _

theorem predicates_behind (builder : Builder) (items : List Selection) :
    (behind builder (run builder items)).predicates =
      builder.predicates ++ (accepted (run builder items)).filterMap Selection.predicate := by
  induction items generalizing builder with
  | nil => simp [run, behind, accepted]
  | cons item rest ih =>
    rw [run, behind, ih]
    rcases builder.addition_cases item with ⟨-, failed⟩ | ⟨-, added⟩
    · rw [failed, accepted_cons_error]
    · rw [added, accepted_cons_ok, joined, List.append_assoc]
      cases wanted : item.predicate <;> simp [wanted]

theorem isSome_source_behind_iff (items : List Selection) :
    (behind {} (run {} items)).source.isSome ↔
      ∃ earlier ∈ run {} items, earlier.item.source.isSome := by
  have offered : (behind {} (run {} items)).source.isSome ↔ ∃ item ∈ items, item.source.isSome := by
    rw [source_behind, Option.none_or, List.isSome_head?, Ne, List.filterMap_eq_nil_iff]
    simp [Option.isSome_iff_ne_none]
  rw [offered]
  conv_lhs => rw [← map_item_run {} items]
  simp

theorem fails_iff_of_split {items : List Selection} {done later : List Addition}
    {addition : Addition} (split : run {} items = done ++ addition :: later) :
    (∃ error, addition.outcome = .error error) ↔
      addition.item.source.isSome ∧ ∃ earlier ∈ done, earlier.item.source.isSome := by
  obtain ⟨front, rfl, here⟩ := run_split split
  rw [← isSome_source_behind_iff, and_comm]
  rcases addition_cases (behind {} (run {} front)) addition.item with
    ⟨taken, failed⟩ | ⟨free, added⟩
  · rw [here, failed]
    simp [taken]
  · rw [here, added]
    simpa using free

theorem unchanged_of_failure {items : List Selection} {addition : Addition}
    (member : addition ∈ run {} items) {error : CompileError}
    (failed : addition.outcome = .error error) :
    error = .multipleGeoSources ∧ addition.after = addition.before := by
  obtain ⟨done, later, split⟩ := List.append_of_mem member
  obtain ⟨front, -, here⟩ := run_split split
  rw [here] at failed ⊢
  rcases addition_cases (behind {} done) addition.item with ⟨-, clash⟩ | ⟨-, added⟩
  · rw [clash] at failed ⊢
    exact ⟨(Except.error.inj failed).symm, rfl⟩
  · rw [added] at failed
    cases failed

end Builder

theorem join_ne_some_empty (separator : String) (texts : List String) :
    join separator texts ≠ some "" := by
  unfold join
  split
  · simp
  next filled =>
    have nonempty : ∀ text ∈ texts.filter (! ·.isEmpty), text ≠ "" := by
      intro text member
      simpa using (List.mem_filter.mp member).2
    simpa using intercalate_ne_empty separator filled nonempty

open Builder

/-- What comes of selections that are added to an empty builder, one after the other and whatever
comes of them. -/
structure Traceless (finish : Builder → Selection) (separator : String)
    (items : List Selection) : Prop where
  fails_iff : ∀ done addition later, run {} items = done ++ addition :: later →
    ((∃ error, addition.outcome = .error error) ↔
      addition.item.source.isSome ∧ ∃ earlier ∈ done, earlier.item.source.isSome)
  unchanged : ∀ addition ∈ run {} items, ∀ error, addition.outcome = .error error →
    error = .multipleGeoSources ∧ addition.after = addition.before
  alone : (accepted (run {} items)).foldlM add {} = .ok (behind {} (run {} items))
  source : (finish (behind {} (run {} items))).source = (items.filterMap Selection.source).head?
  predicate : (finish (behind {} (run {} items))).predicate =
    match ((accepted (run {} items)).filterMap Selection.predicate).filter (! ·.isEmpty) with
    | [] => none
    | texts => some (separator.intercalate texts)
  solid : (finish (behind {} (run {} items))).predicate ≠ some ""

/-- A builder of a group and a builder of a query come through failed additions unharmed: of a
selection that is refused for its source not even the predicate stays. -/
theorem additions_leave_no_trace (fragments : List Fragment) (groups : List Selection) :
    Traceless Builder.conjunction " AND " (fragments.map Fragment.selection) ∧
      Traceless Builder.disjunction " OR " groups := by
  have each (separator : String) (items : List Selection) :
      Traceless (·.build separator) separator items := by
    have predicates := predicates_behind {} items
    rw [List.nil_append] at predicates
    refine ⟨fun _ _ _ => fails_iff_of_split, fun _ member _ => unchanged_of_failure member,
      foldlM_add_accepted {} items, source_behind {} items, ?_, join_ne_some_empty _ _⟩
    rw [build, predicates]
    rfl
  exact ⟨each " AND " _, each " OR " _⟩

example : (behind {} (run {} [⟨some "a", some "p"⟩, ⟨some "b", some "q"⟩, ⟨none, some ""⟩,
    ⟨none, some "r"⟩])).disjunction = ⟨some "a", some "p OR r"⟩ := by
  decide

end Selection

end FinderQuery
