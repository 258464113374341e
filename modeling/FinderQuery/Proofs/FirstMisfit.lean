import FinderQuery.Proofs.Placement

namespace FinderQuery

open Argument

namespace BindRequest

/-- Whether the argument at a position, counted from where a request begins, does not fit it, and
the error that belongs to it. -/
inductive Misfit (request : BindRequest) (arguments : List Argument) (position : Nat) :
    CompileError → Prop
  | list {items : List Value} (here : arguments[position]? = some (scalar (.array items))) :
    Misfit request arguments position (.invalidArgument request.operator .listAsScalar)
  | sequence {items : List Value} (here : arguments[position]? = some (sequence items))
    (pattern : request.mode ≠ .exact) :
    Misfit request arguments position (.invalidArgument request.operator .sequenceAsPattern)
  | nonString {value : Value} (here : arguments[position]? = some (scalar value))
    (noList : ∀ items, value ≠ .array items) (noString : ∀ text, value ≠ .string text)
    (pattern : request.mode ≠ .exact) :
    Misfit request arguments position (.invalidArgument request.operator .nonStringAsPattern)
  /-- A range is misplaced if no point stands right before it, if the operator is not within, or if
  it is not the first one. -/
  | range {range : Range} (here : arguments[position]? = some (geoRange range))
    (misplaced :
      (¬ ∃ before point, position = before + 1 ∧ arguments[before]? = some (geoPoint point)) ∨
      request.operator ≠ .within ∨
      ∃ earlier < position, ∃ other, arguments[earlier]? = some (geoRange other)) :
    Misfit request arguments position (.misplacedGeoRange request.operator)

structure IsFirstMisfit (request : BindRequest) (arguments : List Argument) (position : Nat)
    (error : CompileError) : Prop where
  misfit : request.Misfit arguments position error
  first : ∀ earlier < position, ∀ other, ¬ request.Misfit arguments earlier other

section

variable {request : BindRequest} {arguments : List Argument} {position : Nat}
  {error : CompileError}

theorem any_isPoint_getLast?_take_iff (inside : position < arguments.length) :
    (arguments.take position).getLast?.any isPoint ↔
      ∃ before point, position = before + 1 ∧ arguments[before]? = some (geoPoint point) := by
  cases position with
  | zero => simp
  | succ before =>
    have last : (arguments.take (before + 1)).getLast? = arguments[before]? := by
      rw [List.getLast?_take, if_neg (Nat.succ_ne_zero before), Nat.add_sub_cancel,
        List.getElem?_eq_getElem (Nat.lt_of_succ_lt inside), Option.some_or]
    simp only [last, Nat.add_right_cancel_iff, exists_and_left, exists_eq_left']
    cases arguments[before]? with
    | none => simp
    | some argument => cases argument <;> simp [isPoint]

theorem any_isRange_iff : arguments.any isRange ↔ ∃ range, geoRange range ∈ arguments := by
  rw [List.any_eq_true]
  constructor
  · intro given
    rcases given with ⟨argument, member, ranged⟩
    cases argument with
    | geoRange range => exact ⟨range, member⟩
    | _ => cases ranged
  · intro given
    rcases given with ⟨range, member⟩
    exact ⟨_, member, rfl⟩

theorem any_isRange_take_iff :
    (arguments.take position).any isRange ↔
      ∃ earlier < position, ∃ other, arguments[earlier]? = some (geoRange other) := by
  simp only [any_isRange_iff, List.mem_take_iff_getElem, List.getElem?_eq_some_iff]
  constructor
  · intro given
    rcases given with ⟨other, earlier, bound, here⟩
    exact ⟨earlier, by omega, other, by omega, here⟩
  · intro given
    rcases given with ⟨earlier, before, other, bound, here⟩
    exact ⟨other, earlier, by omega, here⟩

theorem misplaced_iff (inside : position < arguments.length) :
    ¬ (request.operator = .within ∧ (arguments.take position).getLast?.any isPoint ∧
        ¬ (arguments.take position).any isRange) ↔
      (¬ ∃ before point, position = before + 1 ∧ arguments[before]? = some (geoPoint point)) ∨
      request.operator ≠ .within ∨
      ∃ earlier < position, ∃ other, arguments[earlier]? = some (geoRange other) := by
  rw [any_isPoint_getLast?_take_iff inside, any_isRange_take_iff, not_and_or, not_and_or, not_not,
    or_left_comm]

theorem misfit_iff :
    request.Misfit arguments position error ↔
      ∃ argument, arguments[position]? = some argument ∧
        request.fault? (arguments.take position) argument = some error := by
  constructor
  · intro misfit
    cases misfit with
    | list here => exact ⟨_, here, rfl⟩
    | sequence here pattern => exact ⟨_, here, by rw [fault?, if_neg pattern]⟩
    | @nonString value here noList noString pattern =>
      refine ⟨_, here, ?_⟩
      cases value with
      | array items => exact absurd rfl (noList items)
      | string text => exact absurd rfl (noString text)
      | _ => rw [fault?, if_neg pattern] <;> simp
    | range here misplaced =>
      have inside := (List.getElem?_eq_some_iff.mp here).1
      exact ⟨_, here, if_neg ((misplaced_iff inside).mpr misplaced)⟩
  · intro given
    rcases given with ⟨argument, here, fault⟩
    -- The splits follow the branches of the definition: points, ranges, lists, strings, the rest.
    unfold fault? at fault
    split at fault
    · cases fault
    · split at fault
      · cases fault
      next misplaced =>
        cases fault
        have inside := (List.getElem?_eq_some_iff.mp here).1
        exact .range here ((misplaced_iff inside).mp misplaced)
    · cases fault
      exact .list here
    · cases fault
    next noList noString =>
      split at fault
      · cases fault
      next pattern =>
        cases fault
        exact .nonString here noList noString pattern
    · split at fault
      · cases fault
      next pattern =>
        cases fault
        exact .sequence here pattern

theorem firstFault?_take_eq_none_iff {count : Nat} :
    request.firstFault? [] (arguments.take count) = none ↔
      ∀ position < count, ∀ error, ¬ request.Misfit arguments position error := by
  induction count with
  | zero => simp
  | succ count ih =>
    rw [List.take_add_one, firstFault?_append, Option.or_eq_none_iff, ih, Nat.forall_lt_succ_right]
    refine and_congr_right fun _ => ?_
    simp only [misfit_iff]
    cases arguments[count]? with
    | none => simp
    | some argument => simp [Option.eq_none_iff_forall_ne_some]

theorem exists_first_of_misfit (misfit : request.Misfit arguments position error) :
    ∃ first ≤ position, ∃ found, request.IsFirstMisfit arguments first found := by
  induction position using Nat.strongRecOn generalizing error with
  | ind position ih =>
    by_cases earlier : ∃ before < position, ∃ other, request.Misfit arguments before other
    · obtain ⟨before, less, other, here⟩ := earlier
      obtain ⟨first, bound, found⟩ := ih before less here
      exact ⟨first, Nat.le_trans bound (Nat.le_of_lt less), found⟩
    · exact ⟨position, Nat.le_refl _, error, misfit,
        fun before less other here => earlier ⟨before, less, other, here⟩⟩

end

end BindRequest

namespace Binder

open BindRequest

/-- A request that meets an argument which does not fit, among as many as it asks for, fails on the
first one: this one is consumed, and those before it are written. Otherwise, if there are too few
arguments, it uses them up and fails, and if there are enough, it takes as many as it asks for. -/
theorem bind_classifies (request : BindRequest) (arguments : List Argument) (vars : BindVars) :
    ((∃ position < min request.arity arguments.length, ∃ error,
        request.Misfit arguments position error) →
      ∃ position < min request.arity arguments.length, ∃ error,
        request.IsFirstMisfit arguments position error) ∧
    (∀ position error, position < min request.arity arguments.length →
      request.IsFirstMisfit arguments position error →
        bind ⟨arguments, vars⟩ request =
          (.error error, ⟨arguments.drop (position + 1),
            vars.pushAll ((arguments.take position).flatMap request.valuesOf)⟩)) ∧
    ((∀ position < min request.arity arguments.length, ∀ error,
        ¬ request.Misfit arguments position error) →
      (arguments.length < request.arity →
        bind ⟨arguments, vars⟩ request =
          (.error (.insufficientArguments request.operator request.arity arguments.length),
            ⟨[], vars.pushAll (arguments.flatMap request.valuesOf)⟩)) ∧
      (request.arity ≤ arguments.length →
        ∃ outcome after, bind ⟨arguments, vars⟩ request = (.ok outcome, after) ∧
          after.arguments = arguments.drop request.arity ∧
          after.vars =
            vars.pushAll ((arguments.take request.arity).flatMap request.valuesOf) ∧
          (outcome = .geoDonut ↔ ∃ range, geoRange range ∈ arguments.take request.arity) ∧
          (outcome ≠ .geoDonut → outcome = .fixed (after.nextKey - vars.size)))) := by
  refine ⟨?first, fun position error inside first => ?misfit,
    fun fits => ⟨fun few => ?few, fun enough => ?enough⟩⟩
  case first =>
    intro given
    rcases given with ⟨position, inside, error, misfit⟩
    obtain ⟨first, bound, found⟩ := exists_first_of_misfit misfit
    exact ⟨first, Nat.lt_of_le_of_lt bound inside, found⟩
  case misfit =>
    obtain ⟨rejected, here, fault⟩ := misfit_iff.mp first.misfit
    obtain ⟨present, same⟩ := List.getElem?_eq_some_iff.mp here
    have split : arguments.take position ++ rejected :: arguments.drop (position + 1) =
        arguments := by
      rw [← same, ← List.drop_eq_getElem_cons present, List.take_append_drop]
    have count : (arguments.take position).length < request.arity := by
      rw [List.length_take]
      omega
    have kept := firstFault?_take_eq_none_iff.mpr first.first
    have run := bind_of_misfit count kept fault (arguments.drop (position + 1)) vars
    rw [split] at run
    exact run
  case few =>
    rw [Nat.min_eq_right (Nat.le_of_lt few), ← firstFault?_take_eq_none_iff,
      List.take_length] at fits
    exact bind_of_shortage few fits vars
  case enough =>
    rw [Nat.min_eq_left enough, ← firstFault?_take_eq_none_iff] at fits
    have full : request.arity ≤ (arguments.take request.arity).length := by
      rw [List.length_take]
      omega
    have run := bind_of_fits request arguments vars
      ((error?_eq_none_iff request _).mpr ⟨fits, full⟩)
    refine ⟨_, _, run, rfl, rfl, ?_, fun single => ?_⟩
    · rw [outcome_eq_geoDonut_iff, any_isRange_iff]
    · rw [Ne, outcome_eq_geoDonut_iff] at single
      rw [outcome, if_neg single, nextKey, BindVars.size_pushAll, length_flatMap_valuesOf,
        Nat.add_sub_cancel_left]

example :
    bind ⟨[scalar (.int 1), scalar (.array []), scalar (.int 2)], .empty⟩
        ⟨.between, 2, false, .exact⟩ =
      (.error (.invalidArgument .between .listAsScalar),
        ⟨[scalar (.int 2)], .ofValues [.int 1]⟩) :=
  rfl

end Binder

end FinderQuery
