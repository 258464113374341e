import FinderQuery.Proofs.Placement

namespace FinderQuery

open Argument

namespace BindVars

theorem keys_ofValues (values : List Value) :
    (ofValues values).keys = (List.range values.length).map keyText := by
  have numbers : values.zipIdx.map Prod.snd = List.range values.length := by
    rw [List.zipIdx_map_snd, List.range_eq_range']
  rw [← numbers, List.map_map]
  simp only [ofValues, keys, List.map_map, Function.comp_def]

theorem entries_prefix_pushAll (vars : BindVars) (values : List Value) :
    vars.entries <+: (vars.pushAll values).entries := by
  induction values generalizing vars with
  | nil => exact List.prefix_refl _
  | cons value values ih => exact (List.prefix_append _ _).trans (ih (vars.push value))

end BindVars

namespace BindRequest

variable {request : BindRequest}

theorem not_insufficient_of_fault? {earlier : List Argument} {argument : Argument}
    {error : CompileError} (fault : request.fault? earlier argument = some error)
    (operator : Operator) (needed supplied : Nat) :
    error ≠ .insufficientArguments operator needed supplied := by
  intro same
  subst same
  unfold fault? at fault
  split at fault
  · cases fault
  · split at fault <;> cases fault
  · cases fault
  · cases fault
  · split at fault <;> cases fault
  · split at fault <;> cases fault

end BindRequest

namespace Binder

open BindRequest

variable {request : BindRequest}

structure Step where
  request : BindRequest
  before : Binder
  outcome : Except CompileError BindOutcome
  after : Binder

def step (binder : Binder) (request : BindRequest) : Step :=
  ⟨request, binder, (binder.bind request).1, (binder.bind request).2⟩

def run : Binder → List BindRequest → List Step
  | _, [] => []
  | binder, request :: rest => binder.step request :: run (binder.step request).after rest

namespace Step

/-- How a step can go: there are enough arguments that fit, or one of them does not fit, or there
are too few. Those that are kept are written. -/
inductive Course (request : BindRequest) (kept : List Argument) (vars : BindVars) : Step → Prop
  | enough (rest : List Argument) (count : kept.length = request.arity) :
    Course request kept vars
      ⟨request, ⟨kept ++ rest, vars⟩, .ok (BindRequest.outcome kept),
        ⟨rest, vars.pushAll (kept.flatMap request.valuesOf)⟩⟩
  | misfit (rejected : Argument) (rest : List Argument) {error : CompileError}
    (fault : request.fault? kept rejected = some error) :
    Course request kept vars
      ⟨request, ⟨kept ++ rejected :: rest, vars⟩, .error error,
        ⟨rest, vars.pushAll (kept.flatMap request.valuesOf)⟩⟩
  | shortage :
    Course request kept vars
      ⟨request, ⟨kept, vars⟩,
        .error (.insufficientArguments request.operator request.arity kept.length),
        ⟨[], vars.pushAll (kept.flatMap request.valuesOf)⟩⟩

theorem exists_course (binder : Binder) (request : BindRequest) :
    ∃ kept, request.firstFault? [] kept = none ∧
      Course request kept binder.vars (binder.step request) := by
  obtain ⟨arguments, vars⟩ := binder
  have whole := List.take_append_drop request.arity arguments
  rcases fits_or_misfit request [] (arguments.take request.arity) with
    fits | ⟨kept, rejected, rest, error, share, fits, fault, -⟩
  · by_cases count : arguments.length < request.arity
    · rw [List.take_of_length_le (Nat.le_of_lt count)] at fits
      refine ⟨arguments, fits, ?_⟩
      rw [step, bind_of_shortage count fits]
      exact .shortage
    · have full : (arguments.take request.arity).length = request.arity := by
        rw [List.length_take]
        omega
      have verdict := (error?_eq_none_iff request (arguments.take request.arity)).mpr
        ⟨fits, Nat.le_of_eq full.symm⟩
      refine ⟨arguments.take request.arity, fits, ?_⟩
      rw [step, bind_of_fits request arguments vars verdict]
      have course : Course request (arguments.take request.arity) vars _ :=
        .enough (arguments.drop request.arity) full
      rw [whole] at course
      exact course
  · refine ⟨kept, fits, ?_⟩
    rw [share, List.append_assoc, List.cons_append] at whole
    rw [step, ← whole, bind_of_misfit (length_lt_of_take_eq share) fits fault]
    exact .misfit rejected (rest ++ arguments.drop request.arity) fault

def taken (step : Step) : List Argument :=
  step.before.arguments.take (step.before.remaining - step.after.remaining)

/-- The arguments that a step has taken, but for the one that it fails on. -/
def kept (step : Step) : List Argument :=
  match step.outcome with
  | .ok _ | .error (.insufficientArguments ..) => step.taken
  | .error _ => step.taken.dropLast

def values (step : Step) : List Value := step.kept.flatMap step.request.valuesOf

theorem taken_eq {step : Step} {taken : List Argument}
    (split : step.before.arguments = taken ++ step.after.arguments) : step.taken = taken := by
  have count : step.before.remaining - step.after.remaining = taken.length := by
    rw [remaining, remaining, split, List.length_append, Nat.add_sub_cancel]
  rw [Step.taken, count, split, List.take_left]

theorem kept_of_misfit {request : BindRequest} {earlier : List Argument} {argument : Argument}
    {error : CompileError} (fault : request.fault? earlier argument = some error)
    (before after : Binder) :
    Step.kept ⟨request, before, .error error, after⟩ =
      (Step.taken ⟨request, before, .error error, after⟩).dropLast := by
  have other := BindRequest.not_insufficient_of_fault? fault
  cases error with
  | insufficientArguments operator needed supplied =>
    exact absurd rfl (other operator needed supplied)
  | _ => rfl

namespace Course

variable {request : BindRequest} {kept : List Argument} {vars : BindVars} {step : Step}

theorem taken_append_rest (course : Course request kept vars step) :
    step.taken ++ step.after.arguments = step.before.arguments := by
  cases course with
  | enough rest count => rw [taken_eq rfl]
  | misfit rejected rest fault =>
    have split := List.append_cons kept rejected rest
    rw [taken_eq split]
    exact split.symm
  | shortage =>
    rw [taken_eq (List.append_nil kept).symm]
    exact List.append_nil kept

theorem kept_eq (course : Course request kept vars step) : step.kept = kept := by
  cases course with
  | enough rest count => exact taken_eq rfl
  | misfit rejected rest fault =>
    rw [kept_of_misfit fault, taken_eq (List.append_cons kept rejected rest), List.dropLast_concat]
  | shortage => exact taken_eq (List.append_nil kept).symm

theorem failure (course : Course request kept vars step) {error : CompileError}
    (fails : step.outcome = .error error) :
    (∃ argument, step.taken = kept ++ [argument] ∧ request.fault? kept argument = some error) ∨
      (step.taken = kept ∧ step.after.arguments = [] ∧
        error = .insufficientArguments request.operator request.arity step.taken.length) := by
  cases course with
  | enough rest count => cases fails
  | misfit rejected rest fault =>
    cases fails
    exact Or.inl ⟨rejected, taken_eq (List.append_cons kept rejected rest), fault⟩
  | shortage =>
    cases fails
    exact Or.inr ⟨taken_eq (List.append_nil kept).symm, rfl,
      by rw [taken_eq (List.append_nil kept).symm]⟩

theorem vars_eq (course : Course request kept vars step) :
    step.after.vars = step.before.vars.pushAll step.values := by
  rw [values, course.kept_eq]
  cases course <;> rfl

end Course

end Step

/-- What holds behind a step of a run that started with some arguments and no variables. -/
structure Accounted (arguments : List Argument) (done : List Step) (step : Step) : Prop where
  rest : step.after.arguments <:+ arguments
  keys : step.after.vars.keys = (List.range step.after.nextKey).map toString
  next : step.after.nextKey = step.after.vars.size
  unchanged : step.before.vars.entries <+: step.after.vars.entries
  taken : arguments = (done ++ [step]).flatMap Step.taken ++ step.after.arguments
  written : step.after.vars.values = (done ++ [step]).flatMap Step.values
  failure : ∀ error, step.outcome = .error error →
    (∃ argument, step.taken = step.kept ++ [argument] ∧
      step.request.fault? step.kept argument = some error) ∨
    (step.taken = step.kept ∧ step.after.arguments = [] ∧
      error = .insufficientArguments step.request.operator step.request.arity step.taken.length)
  success : ∀ outcome, step.outcome = .ok outcome →
    step.taken = step.kept ∧ step.taken.length = step.request.arity ∧
      ((outcome = .geoDonut → step.request.arity = 2) →
        step.after.nextKey = step.before.nextKey + outcome.slots)

theorem slotsOf_of_isDonut {operator : Operator} {share : List Argument}
    (donut : isDonut operator share) : slotsOf share = 4 := by
  obtain ⟨-, point, range, rfl⟩ := isDonut_iff.mp donut
  rfl

theorem slots_outcome {kept : List Argument} (fits : request.firstFault? [] kept = none)
    (double : BindRequest.outcome kept = .geoDonut → kept.length = 2) :
    (BindRequest.outcome kept).slots = slotsOf kept := by
  by_cases donut : kept.any isRange
  · have outcome : BindRequest.outcome kept = .geoDonut := outcome_eq_geoDonut_iff.mpr donut
    have isDonut := (any_isRange_iff_isDonut (Nat.le_of_eq (double outcome)) fits).mp donut
    rw [outcome, slotsOf_of_isDonut isDonut]
    rfl
  · rw [BindRequest.outcome, if_neg donut]
    rfl

theorem Step.Course.success {kept : List Argument} {vars : BindVars} {step : Step}
    (course : Step.Course request kept vars step) (fits : request.firstFault? [] kept = none)
    {outcome : BindOutcome} (succeeds : step.outcome = .ok outcome) :
    step.taken = kept ∧ step.taken.length = request.arity ∧
      ((outcome = .geoDonut → request.arity = 2) →
        step.after.nextKey = step.before.nextKey + outcome.slots) := by
  cases course with
  | enough rest count =>
    cases succeeds
    rw [Step.taken_eq rfl]
    refine ⟨rfl, count, fun double => ?_⟩
    rw [← count] at double
    rw [slots_outcome fits double, nextKey, nextKey, BindVars.size_pushAll,
      length_flatMap_valuesOf]
  | misfit rejected rest fault => cases succeeds
  | shortage => cases succeeds

theorem run_split {binder : Binder} {requests : List BindRequest} {done later : List Step}
    {step : Step} (split : run binder requests = done ++ step :: later) :
    step = step.before.step step.request ∧
      binder.arguments = done.flatMap Step.taken ++ step.before.arguments ∧
      step.before.vars = binder.vars.pushAll (done.flatMap Step.values) := by
  -- What has been taken and written adds up from step to step, by the course of each.
  induction done generalizing binder requests with
  | nil =>
    cases requests with
    | nil => cases split
    | cons request requests =>
      obtain ⟨rfl, -⟩ := List.cons.inj split
      exact ⟨rfl, rfl, rfl⟩
  | cons first done ih =>
    cases requests with
    | nil => cases split
    | cons request requests =>
      obtain ⟨rfl, tail⟩ := List.cons.inj split
      obtain ⟨same, arguments, vars⟩ := ih tail
      obtain ⟨kept, -, course⟩ := Step.exists_course binder request
      refine ⟨same, ?_, ?_⟩
      · rw [List.flatMap_cons, List.append_assoc, ← arguments]
        exact course.taken_append_rest.symm
      · rw [vars, course.vars_eq, List.flatMap_cons, BindVars.pushAll_append]
        rfl

/-- After each step of a run, failed or not, the arguments and the variables are accounted for. -/
theorem run_accounted (arguments : List Argument) (requests : List BindRequest)
    {done later : List Step} {step : Step}
    (split : run (.ofArguments arguments) requests = done ++ step :: later) :
    Accounted arguments done step := by
  obtain ⟨same, before, vars⟩ := run_split split
  obtain ⟨kept, fits, course⟩ := Step.exists_course step.before step.request
  rw [← same] at course
  have taken : arguments = (done ++ [step]).flatMap Step.taken ++ step.after.arguments := by
    rw [List.flatMap_append, List.flatMap_singleton, List.append_assoc, course.taken_append_rest]
    exact before
  have written : step.after.vars = .ofValues ((done ++ [step]).flatMap Step.values) := by
    rw [course.vars_eq, vars, ofArguments, ← BindVars.ofValues_nil, ← BindVars.pushAll_append,
      BindVars.pushAll_ofValues, List.flatMap_append, List.flatMap_singleton, List.nil_append]
  have keys : step.after.vars.keys = (List.range step.after.nextKey).map toString := by
    rw [nextKey, written, BindVars.keys_ofValues, BindVars.size_ofValues]
    rfl
  have values : step.after.vars.values = (done ++ [step]).flatMap Step.values := by
    rw [written, BindVars.values_ofValues]
  have unchanged : step.before.vars.entries <+: step.after.vars.entries := by
    rw [course.vars_eq]
    exact BindVars.entries_prefix_pushAll _ _
  have kept := course.kept_eq
  subst kept
  exact ⟨⟨_, taken.symm⟩, keys, rfl, unchanged, taken, values,
    fun _ fails => course.failure fails, fun _ succeeds => course.success fits succeeds⟩

/-- A request fails on a list behind a number. The next one goes on behind the list and lowers and
escapes a text, and the one after it writes a point and a range. -/
theorem run_accounted_behind_list :
    let zero : Binary64 := .finite false .zero
    let arguments := [scalar (.int 1), scalar (.array []), scalar (.string "A_%"),
      geoPoint ⟨zero, zero⟩, geoRange ⟨zero, zero⟩]
    ∃ failed escaped donut,
      run (.ofArguments arguments) [⟨.between, 2, false, .exact⟩,
          ⟨.startingWith, 1, true, .startsWith⟩, ⟨.within, 2, false, .exact⟩] =
        [failed, escaped] ++ donut :: [] ∧
      failed.outcome = .error (.invalidArgument .between .listAsScalar) ∧
      escaped.outcome = .ok (.fixed 1) ∧ donut.outcome = .ok .geoDonut ∧
      donut.after.vars = .ofValues [.int 1, .string "a\\_\\%%", .float zero, .float zero,
        .float zero, .float zero] ∧
      Accounted arguments [failed, escaped] donut := by
  intro zero arguments
  exact ⟨_, _, _, rfl, rfl, rfl, rfl, rfl, run_accounted arguments
    [⟨.between, 2, false, .exact⟩, ⟨.startingWith, 1, true, .startsWith⟩,
      ⟨.within, 2, false, .exact⟩]
    (show _ = [_, _] ++ _ :: [] from rfl)⟩

end Binder

end FinderQuery
