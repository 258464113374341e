import FinderQuery.Proofs.CaseBlindness

namespace FinderQuery

open Argument

def Event.isMeaninglessRequest : Event → Bool
  | meaninglessCaseRequest .. => true
  | _ => false

namespace Traced

variable {α β : Type}

def quiet (run : Traced α) : Traced α :=
  ⟨run.events.filter (! ·.isMeaninglessRequest), run.result⟩

theorem quiet_bind (first : Traced α) (next : α → Traced β) :
    (first >>= next).quiet = first.quiet >>= fun value => (next value).quiet := by
  obtain ⟨events, result⟩ := first
  cases result with
  | error error => rfl
  | ok value =>
    show quiet ⟨events ++ (next value).events, (next value).result⟩ =
      ⟨events.filter _ ++ (next value).quiet.events, (next value).quiet.result⟩
    simp only [quiet, List.filter_append]

theorem quiet_bind_congr {first second : Traced α} {next other : α → Traced β}
    (same : first.quiet = second.quiet) (each : ∀ value, (next value).quiet = (other value).quiet) :
    (first >>= next).quiet = (second >>= other).quiet := by
  rw [quiet_bind, quiet_bind, same]
  exact congrArg _ (funext each)

end Traced

namespace Compile

variable {target : Target}

structure DecidedAlike (target : Target) (part other : Part) : Prop where
  property : other.property = part.property
  operator : other.operator = part.operator
  decision : ∀ leaf, target.metadata.leafProperty target.entity part.property = .ok leaf →
    other.ignoresCase leaf = part.ignoresCase leaf

theorem part_quiet {first other : Part} (alike : DecidedAlike target first other)
    (binder : Binder) : (part target other binder).quiet = (part target first binder).quiet := by
  obtain ⟨property, operator, request⟩ := first
  obtain ⟨otherProperty, otherOperator, otherRequest⟩ := other
  obtain ⟨sameProperty, sameOperator, decision⟩ := alike
  cases sameProperty
  cases sameOperator
  unfold part
  cases known : target.metadata.leafProperty target.entity property with
  | error error => rfl
  | ok leaf =>
    have same := decision leaf known
    simp only [Traced.ofExcept_ok_bind, same]
    refine Traced.quiet_bind_congr rfl fun field => Traced.quiet_bind_congr ?_ fun _ => rfl
    -- The one report in which the two runs can differ.
    split <;> split <;> rfl

theorem addAll_quiet {α β : Type} {compile : α → Binder → Traced (β × Binder)}
    {selection : β → Selection} {R : α → α → Prop}
    {items others : List α} (alike : List.Forall₂ R items others)
    (each : ∀ item other, R item other → ∀ binder,
      (compile other binder).quiet = (compile item binder).quiet)
    (builder : Selection.Builder) (binder : Binder) :
    (addAll compile selection builder others binder).quiet =
      (addAll compile selection builder items binder).quiet := by
  induction alike generalizing builder binder with
  | nil => rfl
  | cons head _ ih =>
    rw [addAll, addAll]
    exact Traced.quiet_bind_congr (each _ _ head binder) fun _ =>
      Traced.quiet_bind_congr rfl fun _ => ih _ _

theorem group_quiet {parts others : List Part}
    (alike : List.Forall₂ (DecidedAlike target) parts others) (builder : Selection.Builder)
    (binder : Binder) :
    (group target builder others binder).quiet = (group target builder parts binder).quiet := by
  unfold group
  exact addAll_quiet alike (fun _ _ alike => part_quiet alike) builder binder

theorem groups_quiet {tree other : List (List Part)}
    (alike : List.Forall₂ (List.Forall₂ (DecidedAlike target)) tree other)
    (builder : Selection.Builder) (binder : Binder) :
    (groups target builder other binder).quiet = (groups target builder tree binder).quiet := by
  unfold groups
  exact addAll_quiet alike (fun _ _ alike => group_quiet alike {}) builder binder

end Compile

section

variable {metadata : Metadata} {entity : String}

theorem compile_quiet {tree : PartTree} {groups : List (List Part)}
    (alike : ∀ collection, List.Forall₂ (List.Forall₂
      (Compile.DecidedAlike ⟨metadata, entity, collection⟩)) tree.groups groups)
    (arguments : List Argument) (sorting : Option Sorting) :
    (compile metadata entity { tree with groups } arguments sorting).quiet =
      (compile metadata entity tree arguments sorting).quiet := by
  rw [compile, compile]
  exact Traced.quiet_bind_congr rfl fun collection =>
    Traced.quiet_bind_congr (Compile.groups_quiet (alike collection) _ _) fun _ => rfl

/-- The ways to put a request differently: an explicit one can ask only where the property allows
it, and there need be none where the property holds no strings or the operator has no notion of
case. -/
inductive RequestRewrite (metadata : Metadata) (entity : String) : Part → Part → Prop
  | keep (part : Part) : RequestRewrite metadata entity part part
  | soften (property : PropertyPath) (operator : Operator) :
    RequestRewrite metadata entity ⟨property, operator, .always⟩ ⟨property, operator, .whenPossible⟩
  | drop (part : Part)
    (idle : part.operator ∈
        [.hasProperty, .isTrue, .isFalse, .isNull, .isNotNull, .near, .within] ∨
      ∀ leaf, metadata.leafProperty entity part.property = .ok leaf → leaf.kind ≠ .string) :
    RequestRewrite metadata entity part { part with caseRequest := .never }

theorem Operator.isCaseless_iff {operator : Operator} :
    operator.isCaseless ↔ operator ∈
      [.hasProperty, .isTrue, .isFalse, .isNull, .isNotNull, .near, .within] := by
  cases operator <;> decide

theorem RequestRewrite.decidedAlike {part other : Part}
    (rewritten : RequestRewrite metadata entity part other) (collection : String) :
    Compile.DecidedAlike ⟨metadata, entity, collection⟩ part other := by
  cases rewritten with
  | keep => exact ⟨rfl, rfl, fun _ _ => rfl⟩
  | soften property operator => exact ⟨rfl, rfl, fun _ _ => rfl⟩
  | drop _ idle =>
    refine ⟨rfl, rfl, fun leaf known => ?_⟩
    have deaf : canIgnoreCase part.operator leaf = false := by
      rw [not_canIgnoreCase_iff, Operator.isCaseless_iff]
      rcases idle with caseless | other
      · exact Or.inr caseless
      · exact Or.inl (other leaf known)
    simp [Part.ignoresCase, deaf]

/-- However requests are put differently, a call comes to the same, and its reports differ in
nothing but unheard requests. -/
theorem compile_of_rewritten_requests {tree : PartTree} {groups : List (List Part)}
    (rewritten : List.Forall₂ (List.Forall₂ (RequestRewrite metadata entity)) tree.groups groups)
    (arguments : List Argument) (sorting : Option Sorting) :
    (compile metadata entity { tree with groups } arguments sorting).result =
      (compile metadata entity tree arguments sorting).result ∧
    (compile metadata entity { tree with groups } arguments sorting).events.filter
        (! ·.isMeaninglessRequest) =
      (compile metadata entity tree arguments sorting).events.filter
        (! ·.isMeaninglessRequest) := by
  have alike : ∀ collection, List.Forall₂ (List.Forall₂
      (Compile.DecidedAlike ⟨metadata, entity, collection⟩)) tree.groups groups :=
    fun collection => rewritten.imp fun _ _ parts =>
      parts.imp fun _ _ part => part.decidedAlike collection
  have same := compile_quiet alike arguments sorting
  have results := congrArg Traced.result same
  have events := congrArg Traced.events same
  exact ⟨results, events⟩

end

def requestingTree : PartTree where
  groups := [[⟨⟨["name"]⟩, .startingWith, .always⟩], [⟨⟨["location"]⟩, .near, .always⟩]]

def quietGroups : List (List Part) :=
  [[⟨⟨["name"]⟩, .startingWith, .whenPossible⟩], [⟨⟨["location"]⟩, .near, .never⟩]]

/-- Only the request on the place goes unheard, and only that one was reported. -/
theorem requests_put_differently :
    List.Forall₂ (List.Forall₂ (RequestRewrite placeCatalog "Place")) requestingTree.groups
      quietGroups ∧
    (compile placeCatalog "Place" { requestingTree with groups := quietGroups }
        [scalar (.string "Ab"), geoPoint origin] none).result =
      (compile placeCatalog "Place" requestingTree [scalar (.string "Ab"), geoPoint origin]
        none).result ∧
    (compile placeCatalog "Place" { requestingTree with groups := quietGroups }
        [scalar (.string "Ab"), geoPoint origin] none).events.length + 1 =
      (compile placeCatalog "Place" requestingTree [scalar (.string "Ab"), geoPoint origin]
        none).events.length := by
  have rewritten : List.Forall₂ (List.Forall₂ (RequestRewrite placeCatalog "Place"))
      requestingTree.groups quietGroups :=
    .cons (.cons (.soften _ _) .nil) (.cons (.cons (.drop _ (Or.inl (by decide))) .nil) .nil)
  exact ⟨rewritten, (compile_of_rewritten_requests rewritten _ _).1, by decide +kernel⟩

end FinderQuery
