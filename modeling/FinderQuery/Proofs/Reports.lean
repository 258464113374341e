import FinderQuery.Proofs.BinderRuns
import FinderQuery.Proofs.Closed

namespace FinderQuery

open Argument BindRequest

namespace Event

def isClosing : Event → Bool
  | meaninglessCaseRequest .. | partBound .. | partCompiled .. => false
  | distinctWithoutCount _ | sortMissing | argumentsUnused .. | compiled .. => true

end Event

def Part.caseEvents (part : Part) (leaf : Leaf) : List Event :=
  if part.caseRequest = .always ∧ (leaf.kind ≠ .string ∨ part.operator.isCaseless) then
    [.meaninglessCaseRequest part.property part.operator leaf.kind]
  else []

structure PartReport where
  part : Part
  leaf : Leaf
  slots : Nat

namespace PartReport

def events (first : Nat) (report : PartReport) : List Event :=
  report.part.caseEvents report.leaf ++
    [.partBound report.part.operator first report.slots,
      .partCompiled report.part.property report.part.operator first report.slots]

def slotsIn : List PartReport → Nat
  | [] => 0
  | report :: rest => report.slots + slotsIn rest

@[simp] theorem slotsIn_nil : slotsIn [] = 0 := rfl

@[simp] theorem slotsIn_cons (report : PartReport) (rest : List PartReport) :
    slotsIn (report :: rest) = report.slots + slotsIn rest := rfl

@[simp] theorem slotsIn_append (front back : List PartReport) :
    slotsIn (front ++ back) = slotsIn front + slotsIn back := by
  induction front with
  | nil => simp
  | cons report rest ih => rw [List.cons_append, slotsIn_cons, slotsIn_cons, ih, Nat.add_assoc]

def blocks (first : Nat) (reports : List PartReport) : List Event :=
  (withEarlier [] reports).flatMap fun (before, report) => report.events (first + slotsIn before)

theorem blocks_append (first : Nat) (front back : List PartReport) :
    blocks first (front ++ back) = blocks first front ++ blocks (first + slotsIn front) back := by
  have behind := withEarlier_behind front [] back
  rw [List.append_nil] at behind
  rw [blocks, withEarlier_append, List.flatMap_append, List.nil_append, behind, List.flatMap_map]
  simp only [slotsIn_append, ← Nat.add_assoc]
  rfl

theorem blocks_singleton (first : Nat) (report : PartReport) :
    blocks first [report] = report.events first := by
  simp [blocks, withEarlier]

theorem blocks_zero (reports : List PartReport) :
    blocks 0 reports =
      (withEarlier [] reports).flatMap fun (before, report) => report.events (slotsIn before) := by
  simp only [blocks, Nat.zero_add]

theorem not_isClosing_caseEvents (part : Part) (leaf : Leaf) :
    ∀ event ∈ part.caseEvents leaf, ¬ event.isClosing := by
  unfold Part.caseEvents
  split <;> simp [Event.isClosing]

theorem not_isClosing_blocks (first : Nat) (reports : List PartReport) :
    ∀ event ∈ blocks first reports, ¬ event.isClosing := by
  intro event member
  obtain ⟨entry, -, listed⟩ := List.mem_flatMap.mp member
  rcases List.mem_append.mp listed with case | own
  · exact not_isClosing_caseEvents _ _ event case
  · simp only [List.mem_cons, List.not_mem_nil, or_false] at own
    rcases own with rfl | rfl <;> simp [Event.isClosing]

end PartReport

open PartReport

structure ReportsOn (metadata : Metadata) (entity : String) (parts : List Part)
    (reports : List PartReport) : Prop where
  parts : reports.map PartReport.part = parts
  leaves : ∀ report ∈ reports,
    metadata.leafProperty entity report.part.property = .ok report.leaf

/-- What may be reported of the part that fails, behind those that are done. -/
def ReportsOfNext (metadata : Metadata) (entity : String) (parts done : List Part)
    (last : List Event) : Prop :=
  last = [] ∨ ∃ part leaf, done ++ [part] <+: parts ∧
    metadata.leafProperty entity part.property = .ok leaf ∧ last = part.caseEvents leaf

section

variable {metadata : Metadata} {entity : String}

namespace ReportsOn

theorem nil : ReportsOn metadata entity [] [] := ⟨rfl, by simp⟩

theorem append {front back : List Part} {reports others : List PartReport}
    (first : ReportsOn metadata entity front reports)
    (second : ReportsOn metadata entity back others) :
    ReportsOn metadata entity (front ++ back) (reports ++ others) := by
  constructor
  · rw [List.map_append, first.parts, second.parts]
  · intro report member
    rcases List.mem_append.mp member with member | member
    · exact first.leaves _ member
    · exact second.leaves _ member

end ReportsOn

namespace ReportsOfNext

variable {front back done : List Part} {last : List Event}

theorem not_isClosing (reported : ReportsOfNext metadata entity front done last) :
    ∀ event ∈ last, ¬ event.isClosing := by
  rcases reported with rfl | ⟨part, leaf, -, -, rfl⟩
  · simp
  · exact not_isClosing_caseEvents part leaf

theorem before (reported : ReportsOfNext metadata entity front done last) (back : List Part) :
    ReportsOfNext metadata entity (front ++ back) done last := by
  rcases reported with none | ⟨part, leaf, prior, known, last⟩
  · exact Or.inl none
  · exact Or.inr ⟨part, leaf, prior.trans (List.prefix_append _ _), known, last⟩

theorem behind (reported : ReportsOfNext metadata entity back done last) (front : List Part) :
    ReportsOfNext metadata entity (front ++ back) (front ++ done) last := by
  rcases reported with none | ⟨part, leaf, prior, known, last⟩
  · exact Or.inl none
  · refine Or.inr ⟨part, leaf, ?_, known, last⟩
    rw [List.append_assoc]
    exact (List.prefix_append_right_inj front).mpr prior

end ReportsOfNext

end

theorem Binder.bind_of_ok {request : BindRequest} {before after : Binder} {outcome : BindOutcome}
    (few : request.arity ≤ 2) (run : before.bind request = (.ok outcome, after)) :
    after.nextKey = before.nextKey + outcome.slots ∧
      after.remaining + request.arity = before.remaining := by
  obtain ⟨arguments, vars⟩ := before
  obtain ⟨kept, fits, course⟩ := Step.exists_course ⟨arguments, vars⟩ request
  rw [step, run] at course
  cases course with
  | enough rest count =>
    have double (donut : BindRequest.outcome kept = .geoDonut) : kept.length = 2 := by
      have isDonut := (any_isRange_iff_isDonut (count ▸ few) fits).mp
        (outcome_eq_geoDonut_iff.mp donut)
      obtain ⟨-, point, range, rfl⟩ := isDonut_iff.mp isDonut
      rfl
    constructor
    · rw [nextKey, nextKey, BindVars.size_pushAll, length_flatMap_valuesOf,
        slots_outcome fits double]
    · rw [remaining, remaining, List.length_append, count, Nat.add_comm]

namespace Compile

structure Past (target : Target) (parts : List Part) (reports : List PartReport)
    (before after : Binder) : Prop where
  reported : ReportsOn target.metadata target.entity parts reports
  nextKey : after.nextKey = before.nextKey + slotsIn reports
  remaining : after.remaining + arities parts = before.remaining

variable {α β : Type} {target : Target}

theorem Past.refl (binder : Binder) : Past target [] [] binder binder := ⟨.nil, rfl, rfl⟩

theorem Past.trans {front back : List Part} {reports others : List PartReport}
    {before between after : Binder} (first : Past target front reports before between)
    (second : Past target back others between after) :
    Past target (front ++ back) (reports ++ others) before after := by
  constructor
  · exact first.reported.append second.reported
  · rw [second.nextKey, first.nextKey, slotsIn_append, Nat.add_assoc]
  · rw [← first.remaining, ← second.remaining, arities_append]
    omega

theorem Past.of_bind {head : Part} {leaf : Leaf} {template : Template} {before after : Binder}
    {outcome : BindOutcome} {ignoreCase : Bool}
    (known : target.metadata.leafProperty target.entity head.property = .ok leaf)
    (found : templateOf head.operator = .ok template)
    (run : before.bind ⟨head.operator, template.arity, ignoreCase, template.mode⟩ =
      (.ok outcome, after)) :
    Past target [head] [⟨head, leaf, outcome.slots⟩] before after := by
  have arity := Operator.arity_of_template? (templateOf_eq_ok_iff.mp found)
  have few := Operator.arity_le_two head.operator
  rw [arity] at few
  obtain ⟨nextKey, remaining⟩ := Binder.bind_of_ok few run
  constructor
  · exact ⟨rfl, by simpa using known⟩
  · simpa using nextKey
  · simpa [arity] using remaining

/-- A run over parts reports a block for each of them, or fails behind some of the blocks. -/
inductive Logged (target : Target) (parts : List Part) (before : Binder) :
    Traced (α × Binder) → Prop
  | finished {reports : List PartReport} {after : Binder} (value : α)
    (past : Past target parts reports before after) :
    Logged target parts before ⟨blocks before.nextKey reports, .ok (value, after)⟩
  | halted {done : List Part} {reports : List PartReport} {last : List Event}
    (error : CompileError) (prior : done <+: parts)
    (reported : ReportsOn target.metadata target.entity done reports)
    (next : ReportsOfNext target.metadata target.entity parts done last) :
    Logged target parts before ⟨blocks before.nextKey reports ++ last, .error error⟩

namespace Logged

theorem stopped {parts : List Part} {last : List Event}
    (next : ReportsOfNext target.metadata target.entity parts [] last) (before : Binder)
    (error : CompileError) :
    Logged target parts before (⟨last, .error error⟩ : Traced (α × Binder)) := by
  show Logged target parts before ⟨blocks before.nextKey [] ++ last, .error error⟩
  exact .halted error List.nil_prefix .nil next

theorem ofExcept_bind {parts : List Part} {before : Binder} {result : Except CompileError α}
    {next : α → Traced (β × Binder)} (each : ∀ value, Logged target parts before (next value)) :
    Logged target parts before (.ofExcept result >>= next) := by
  cases result with
  | error error => exact stopped (Or.inl rfl) before error
  | ok value => exact each value

theorem bind {front back : List Part} {before : Binder} {first : Traced (α × Binder)}
    {next : α × Binder → Traced (β × Binder)} (logged : Logged target front before first)
    (each : ∀ value after, Logged target back after (next (value, after))) :
    Logged target (front ++ back) before (first >>= next) := by
  cases logged with
  | halted error prior reported next =>
    exact .halted error (prior.trans (List.prefix_append _ _)) reported (next.before back)
  | @finished reports after value past =>
    show Logged target (front ++ back) before
      ⟨blocks before.nextKey reports ++ (next (value, after)).events, (next (value, after)).result⟩
    have later := each value after
    -- The second run goes on from the numbers that the first one has come to.
    generalize next (value, after) = run at later ⊢
    cases later with
    | finished value further =>
      rw [past.nextKey, ← blocks_append]
      exact .finished value (past.trans further)
    | @halted done others last error prior reported next =>
      rw [past.nextKey, ← List.append_assoc, ← blocks_append]
      exact .halted error ((List.prefix_append_right_inj front).mpr prior)
        (past.reported.append reported) (next.behind front)

end Logged

theorem part_logged (target : Target) (head : Part) (binder : Binder) :
    Logged target [head] binder (part target head binder) := by
  unfold part
  cases known : target.metadata.leafProperty target.entity head.property with
  | error error => exact .stopped (Or.inl rfl) binder error
  | ok leaf =>
    cases target.metadata.fieldPath target.entity head.property with
    | error error => exact .stopped (Or.inl rfl) binder error
    | ok field =>
      have requested : (if head.requestIsMeaningless leaf then
          [.meaninglessCaseRequest head.property head.operator leaf.kind] else []) =
          head.caseEvents leaf := by
        simp only [Part.caseEvents, Part.requestIsMeaningless_iff]
      have last : ReportsOfNext target.metadata target.entity [head] [] (head.caseEvents leaf) :=
        Or.inr ⟨head, leaf, List.prefix_refl _, known, rfl⟩
      simp only [Traced.ofExcept_ok_bind, Traced.report_bind, requested]
      cases found : templateOf head.operator with
      | error error =>
        simp only [Traced.ofExcept_error_bind, List.append_nil]
        exact .stopped last binder error
      | ok template =>
        simp only [Traced.ofExcept_ok_bind]
        rcases bound : binder.bind
          ⟨head.operator, template.arity, head.ignoresCase leaf, template.mode⟩ with
          ⟨_ | outcome, after⟩
        · simp only [Traced.ofExcept_error_bind, List.append_nil]
          exact .stopped last binder _
        · have past := Past.of_bind known found bound
          -- What is written is measured, but the slots of a donut are a constant.
          have written : after.nextKey - binder.nextKey = outcome.slots := by
            rw [past.nextKey, Nat.add_sub_cancel_left, slotsIn_cons, slotsIn_nil, Nat.add_zero]
          let chosen := if outcome = .geoDonut then Template.donut else template
          have finished := Logged.finished
            (chosen.render ⟨target.collection, leaf.reference field (head.ignoresCase leaf),
              head.ignoresCase leaf⟩ binder.nextKey) past
          rw [blocks_singleton] at finished
          simp only [Traced.ofExcept_ok_bind, written]
          exact finished

theorem addAll_logged {compile : α → Binder → Traced (β × Binder)} {selection : β → Selection}
    {partsOf : α → List Part}
    (each : ∀ item binder, Logged target (partsOf item) binder (compile item binder))
    (builder : Selection.Builder) (items : List α) (binder : Binder) :
    Logged target (items.flatMap partsOf) binder
      (addAll compile selection builder items binder) := by
  induction items generalizing builder binder with
  | nil => exact .finished builder (.refl binder)
  | cons item rest ih =>
    rw [addAll, List.flatMap_cons]
    exact (each item binder).bind fun compiled after =>
      .ofExcept_bind fun builder => ih builder after

theorem group_logged (target : Target) (builder : Selection.Builder) (parts : List Part)
    (binder : Binder) : Logged target parts binder (group target builder parts binder) := by
  have logged : Logged target (parts.flatMap fun part => [part]) binder
      (group target builder parts binder) :=
    addAll_logged (part_logged target) builder parts binder
  rw [List.flatMap_singleton'] at logged
  exact logged

theorem groups_logged (target : Target) (builder : Selection.Builder) (tree : List (List Part))
    (binder : Binder) : Logged target tree.flatten binder (groups target builder tree binder) := by
  rw [List.flatten_eq_flatMap]
  exact addAll_logged (group_logged target {}) builder tree binder

theorem closingEvents_eq (target : Target) (tree : PartTree) (sorting : Option Sorting)
    (binder : Binder) (query : String) {arguments : List Argument} {taken : Nat}
    (rest : binder.remaining + taken = arguments.length) :
    closingEvents target tree sorting binder query =
      (if tree.distinct ∧ ¬ tree.countProjection then [.distinctWithoutCount target.collection]
        else []) ++
      (if sorting = none then [.sortMissing] else []) ++
      (if taken < arguments.length then
        [.argumentsUnused target.entity (arguments.length - taken)] else []) ++
      [.compiled target.entity binder.vars.size query] := by
  have left : binder.remaining = arguments.length - taken := by omega
  have unused : 0 < binder.remaining ↔ taken < arguments.length := by omega
  simp only [closingEvents, Bool.and_eq_true, Bool.not_eq_true', Bool.not_eq_true,
    Option.isNone_iff_eq_none, unused, ← left]

end Compile

/-- A compilation that succeeds reports a block for each part in turn, numbered from what the parts
before it wrote, and then what is left to say; the blocks, the variables and the arguments add up.
One that fails reports nothing of the kind behind the blocks of the parts that it came past. -/
theorem compile_events_accounted (metadata : Metadata) (entity : String) (tree : PartTree)
    (arguments : List Argument) (sorting : Option Sorting) :
    (∃ query collection reports,
      (compile metadata entity tree arguments sorting).result = .ok query ∧
      metadata.collectionName entity = .ok collection ∧
      ReportsOn metadata entity tree.parts reports ∧
      slotsIn reports = query.bindVars.size ∧
      arities tree.parts ≤ arguments.length ∧
      (compile metadata entity tree arguments sorting).events =
        ((withEarlier [] reports).flatMap fun (before, report) => report.events (slotsIn before)) ++
        (if tree.distinct ∧ ¬ tree.countProjection then [.distinctWithoutCount collection]
          else []) ++
        (if sorting = none then [.sortMissing] else []) ++
        (if arities tree.parts < arguments.length then
          [.argumentsUnused entity (arguments.length - arities tree.parts)] else []) ++
        [.compiled entity query.bindVars.size query.text]) ∨
    ∃ error done reports last,
      (compile metadata entity tree arguments sorting).result = .error error ∧
      done <+: tree.parts ∧
      ReportsOn metadata entity done reports ∧
      ReportsOfNext metadata entity tree.parts done last ∧
      (compile metadata entity tree arguments sorting).events =
        ((withEarlier [] reports).flatMap fun (before, report) => report.events (slotsIn before)) ++
        last ∧
      ∀ event ∈ (compile metadata entity tree arguments sorting).events, ¬ event.isClosing := by
  rw [compile]
  cases registered : metadata.collectionName entity with
  | error error =>
    refine Or.inr ⟨error, [], [], [], rfl, List.nil_prefix, .nil, Or.inl rfl, rfl, ?_⟩
    simp
  | ok collection =>
    have logged := Compile.groups_logged ⟨metadata, entity, collection⟩ {} tree.groups
      (.ofArguments arguments)
    simp only [Traced.ofExcept_ok_bind]
    -- All that is needed of the groups is what is known of their reports.
    generalize Compile.groups _ _ _ _ = run at logged ⊢
    cases logged with
    | @finished reports after builder past =>
      have start : (Binder.ofArguments arguments).nextKey = 0 := rfl
      have written : slotsIn reports = after.vars.size := by
        rw [← Nat.zero_add (slotsIn reports), ← start, ← past.nextKey, Binder.nextKey]
      have rest : after.remaining + arities tree.parts = arguments.length := past.remaining
      refine Or.inl ⟨⟨Query.assemble collection builder.disjunction tree sorting, after.vars⟩,
        collection, reports, rfl, rfl, past.reported, written, by omega, ?_⟩
      have closing := Compile.closingEvents_eq ⟨metadata, entity, collection⟩ tree sorting after
        (Query.assemble collection builder.disjunction tree sorting) rest
      show blocks _ reports ++ (Compile.closingEvents _ tree sorting after _ ++ []) = _
      rw [closing, start, blocks_zero]
      simp only [List.append_assoc, List.append_nil]
    | @halted done reports last error prior reported next =>
      refine Or.inr ⟨error, done, reports, last, rfl, prior, reported, next, ?_, ?_⟩
      · show blocks _ reports ++ last = _
        rw [show (Binder.ofArguments arguments).nextKey = 0 from rfl, blocks_zero]
      · intro event member
        rcases List.mem_append.mp member with block | trailing
        · exact not_isClosing_blocks _ reports event block
        · exact next.not_isClosing event trailing

example :
    (compile placeCatalog "Place"
        { groups := [[⟨⟨["location"]⟩, .within, .always⟩]], distinct := true }
        [geoPoint origin, geoRange ⟨.finite false .zero, .finite false .zero⟩, scalar .null]
        none).events.map Event.name =
      ["derived.ignore_case.meaningless", "derived.bind.part", "derived.compile.part",
        "derived.distinct.without_count", "derived.sort.missing", "derived.arguments.unused",
        "derived.compile.done"] := by
  decide +kernel

end FinderQuery
