import FinderQuery.Binder
import FinderQuery.Proofs.Earlier

namespace FinderQuery

namespace Text

def lowercaseIf (ignoreCase : Bool) (text : String) : String :=
  if ignoreCase then lowercase text else text

def literalPattern (text : String) : String :=
  String.ofList (text.toList.flatMap fun c => if c ∈ ['%', '_', '\\'] then ['\\', c] else [c])

theorem literalPattern_eq_escapeLike (text : String) : literalPattern text = escapeLike text := by
  unfold literalPattern escapeLike
  congr 2
  funext c
  simp [escapeLikeChar, isLikeSpecial, or_assoc]

end Text

namespace Value

mutual

def mapStrings (change : String → String) : Value → Value
  | string text => string (change text)
  | array items => array (mapStringsAll change items)
  | value => value

def mapStringsAll (change : String → String) : List Value → List Value
  | [] => []
  | item :: items => mapStrings change item :: mapStringsAll change items

end

@[simp] theorem mapStringsAll_eq_map (change : String → String) (items : List Value) :
    mapStringsAll change items = items.map (mapStrings change) := by
  induction items with
  | nil => rfl
  | cons item items ih => rw [mapStringsAll, ih, List.map_cons]

theorem mapStrings_id (value : Value) : mapStrings id value = value := by
  induction value using Value.induction with
  | array items ih => rw [mapStrings, mapStringsAll_eq_map, List.map_congr_left ih, List.map_id']
  | _ => rfl

theorem mapStrings_lowercase (value : Value) :
    mapStrings Text.lowercase value = value.lowercase := by
  induction value using Value.induction with
  | array items ih =>
    rw [mapStrings, lowercase, mapStringsAll_eq_map, lowercaseAll_eq_map, List.map_congr_left ih]
  | _ => rfl

end Value

namespace Argument

def slots : Argument → Nat
  | scalar _ | sequence _ => 1
  | geoPoint _ | geoRange _ => 2

def values (mode : PatternMode) : Argument → List Value
  | scalar (.string text) => [.string (mode.pattern text)]
  | scalar value => [value]
  | sequence items => [.array items]
  | geoPoint point => [.float point.x, .float point.y]
  | geoRange range => [.float range.lower, .float range.upper]

def isPoint : Argument → Bool
  | geoPoint _ => true
  | _ => false

def isRange : Argument → Bool
  | geoRange _ => true
  | _ => false

@[simp] theorem length_values (mode : PatternMode) (argument : Argument) :
    (argument.values mode).length = argument.slots := by
  rcases argument with ⟨_ | _ | _ | _ | _ | _⟩ | _ | _ | _ <;> rfl

@[simp] theorem slots_lowercaseIf (ignoreCase : Bool) (argument : Argument) :
    (argument.lowercaseIf ignoreCase).slots = argument.slots := by
  cases ignoreCase <;> cases argument <;> rfl

theorem slots_pos (argument : Argument) : 0 < argument.slots := by
  cases argument <;> simp [slots]

def slotsOf : List Argument → Nat
  | [] => 0
  | argument :: rest => argument.slots + slotsOf rest

@[simp] theorem slotsOf_nil : slotsOf [] = 0 := rfl

@[simp] theorem slotsOf_cons (argument : Argument) (rest : List Argument) :
    slotsOf (argument :: rest) = argument.slots + slotsOf rest := rfl

@[simp] theorem slotsOf_append (front back : List Argument) :
    slotsOf (front ++ back) = slotsOf front + slotsOf back := by
  induction front with
  | nil => simp
  | cons argument rest ih =>
    rw [List.cons_append, slotsOf_cons, slotsOf_cons, ih, Nat.add_assoc]

theorem slotsOf_eq (arguments : List Argument) :
    slotsOf arguments =
      arguments.length + arguments.countP isPoint + arguments.countP isRange := by
  induction arguments with
  | nil => rfl
  | cons argument rest ih =>
    rw [slotsOf_cons, ih, List.length_cons, List.countP_cons, List.countP_cons]
    cases argument <;> simp [slots, isPoint, isRange] <;> omega

end Argument

namespace BindRequest

open Argument

/-- The text that a request writes for a string: lowered if the request ignores case, and then the
pattern of the texts that begin or end with it if the request asks for one. -/
def operandText (request : BindRequest) (text : String) : String :=
  let cased := Text.lowercaseIf request.ignoreCase text
  match request.mode with
  | .exact => cased
  | .startsWith => Text.literalPattern cased ++ "%"
  | .endsWith => "%" ++ Text.literalPattern cased

def valuesOf (request : BindRequest) : Argument → List Value
  | .scalar (.string text) => [.string (request.operandText text)]
  | .scalar value => [value.mapStrings (Text.lowercaseIf request.ignoreCase)]
  | .sequence items => [.array (items.map (·.mapStrings (Text.lowercaseIf request.ignoreCase)))]
  | .geoPoint point => [.float point.x, .float point.y]
  | .geoRange range => [.float range.lower, .float range.upper]

theorem operandText_eq (request : BindRequest) (text : String) :
    request.operandText text =
      request.mode.pattern (Text.lowercaseIf request.ignoreCase text) := by
  obtain ⟨operator, arity, ignoreCase, mode⟩ := request
  cases mode <;> simp only [operandText, PatternMode.pattern, Text.literalPattern_eq_escapeLike]

theorem valuesOf_eq (request : BindRequest) (argument : Argument) :
    request.valuesOf argument = (argument.lowercaseIf request.ignoreCase).values request.mode := by
  obtain ⟨operator, arity, ignoreCase, mode⟩ := request
  have kept : Text.lowercaseIf false = id := rfl
  have lowered : Text.lowercaseIf true = Text.lowercase := rfl
  rcases argument with ⟨_ | _ | _ | _ | text | items⟩ | items | point | range <;> cases ignoreCase
    <;> simp only [valuesOf, operandText_eq, kept, lowered, Value.mapStrings_id,
      Value.mapStrings_lowercase, List.map_id', lowercaseIf, Argument.lowercase, Value.lowercase,
      values, if_true, if_false, id, Bool.false_eq_true]

/-- What is wrong with an argument that comes after others of one request, if anything is. -/
def fault? (request : BindRequest) (earlier : List Argument) : Argument → Option CompileError
  | .geoPoint _ => none
  | .geoRange _ =>
    if request.operator = .within ∧ earlier.getLast?.any isPoint ∧ ¬ earlier.any isRange then none
    else some (.misplacedGeoRange request.operator)
  | .scalar (.array _) => some (.invalidArgument request.operator .listAsScalar)
  | .scalar (.string _) => none
  | .scalar _ =>
    if request.mode = .exact then none
    else some (.invalidArgument request.operator .nonStringAsPattern)
  | .sequence _ =>
    if request.mode = .exact then none
    else some (.invalidArgument request.operator .sequenceAsPattern)

def firstFault? (request : BindRequest) (earlier share : List Argument) : Option CompileError :=
  (withEarlier earlier share).findSome? fun (earlier, argument) => request.fault? earlier argument

def error? (request : BindRequest) (share : List Argument) : Option CompileError :=
  (request.firstFault? [] share).or
    (if share.length < request.arity then
      some (.insufficientArguments request.operator request.arity share.length) else none)

def outcome (share : List Argument) : BindOutcome :=
  if share.any isRange then .geoDonut else .fixed (slotsOf share)

def seenOf (taken : List Argument) : Seen := ⟨taken.getLast?.any isPoint, taken.any isRange⟩

@[simp] theorem seenOf_nil : seenOf [] = {} := rfl

@[simp] theorem length_flatMap_valuesOf (request : BindRequest) (share : List Argument) :
    (share.flatMap request.valuesOf).length = slotsOf share := by
  induction share with
  | nil => rfl
  | cons argument rest ih => simp [valuesOf_eq, ih]

@[simp] theorem firstFault?_nil (request : BindRequest) (earlier : List Argument) :
    request.firstFault? earlier [] = none := rfl

@[simp] theorem firstFault?_cons (request : BindRequest) (earlier : List Argument)
    (argument : Argument) (rest : List Argument) :
    request.firstFault? earlier (argument :: rest) =
      (request.fault? earlier argument).or (request.firstFault? (earlier ++ [argument]) rest) := by
  simp only [firstFault?, withEarlier, List.findSome?_cons]
  cases request.fault? earlier argument <;> rfl

theorem firstFault?_append (request : BindRequest) (earlier front back : List Argument) :
    request.firstFault? earlier (front ++ back) =
      (request.firstFault? earlier front).or (request.firstFault? (earlier ++ front) back) := by
  rw [firstFault?, withEarlier_append, List.findSome?_append]
  rfl

theorem error?_eq_none_iff (request : BindRequest) (share : List Argument) :
    request.error? share = none ↔
      request.firstFault? [] share = none ∧ request.arity ≤ share.length := by
  simp only [error?, Option.or_eq_none_iff, ite_eq_right_iff, reduceCtorEq, imp_false, Nat.not_lt]

theorem fits_or_misfit (request : BindRequest) (earlier share : List Argument) :
    request.firstFault? earlier share = none ∨
      ∃ kept rejected rest error, share = kept ++ rejected :: rest ∧
        request.firstFault? earlier kept = none ∧
        request.fault? (earlier ++ kept) rejected = some error ∧
        request.firstFault? earlier share = some error := by
  induction share generalizing earlier with
  | nil => exact Or.inl rfl
  | cons argument share ih =>
    cases fault : request.fault? earlier argument with
    | some error =>
      have first : request.firstFault? earlier (argument :: share) = some error := by
        rw [firstFault?_cons, fault, Option.some_or]
      rw [← List.append_nil earlier] at fault
      exact Or.inr ⟨[], argument, share, error, rfl, rfl, fault, first⟩
    | none =>
      have first (share : List Argument) : request.firstFault? earlier (argument :: share) =
          request.firstFault? (earlier ++ [argument]) share := by
        rw [firstFault?_cons, fault, Option.none_or]
      rcases ih (earlier ++ [argument]) with
        fits | ⟨kept, rejected, rest, error, rfl, fits, misfit, found⟩
      · exact Or.inl ((first share).trans fits)
      · rw [List.append_assoc, List.singleton_append] at misfit
        exact Or.inr ⟨argument :: kept, rejected, rest, error, rfl, (first kept).trans fits, misfit,
          (first _).trans found⟩

theorem accept_seenOf (request : BindRequest) (taken : List Argument) (argument : Argument) :
    request.accept (seenOf taken) (argument.lowercaseIf request.ignoreCase) =
      match request.fault? taken argument with
      | some error => .error error
      | none => .ok (request.valuesOf argument, seenOf (taken ++ [argument])) := by
  obtain ⟨operator, arity, ignoreCase, mode⟩ := request
  rcases argument with value | items | point | range
  · rcases value with _ | _ | _ | _ | text | items <;> cases ignoreCase <;> cases mode <;>
      simp [accept, fault?, valuesOf_eq, seenOf, values, lowercaseIf, Argument.lowercase,
        Value.lowercase, PatternMode.operand?, PatternMode.pattern, Value.asString?, isPoint,
        isRange]
  · cases ignoreCase <;> cases mode <;>
      simp [accept, fault?, valuesOf_eq, seenOf, values, lowercaseIf, Argument.lowercase, isPoint,
        isRange]
  · cases ignoreCase <;>
      simp [accept, fault?, valuesOf_eq, seenOf, values, lowercaseIf, Argument.lowercase, isPoint,
        isRange]
  · have lowered : (geoRange range).lowercaseIf ignoreCase = geoRange range := by
      cases ignoreCase <;> rfl
    by_cases fits : operator = .within ∧ taken.getLast?.any isPoint = true ∧
        ¬ taken.any isRange = true
    · simp only [lowered, accept, fault?, seenOf, fits]
      simp [valuesOf_eq, lowered, values, isPoint, isRange]
    · simp only [lowered, accept, fault?, seenOf, fits, if_false]

end BindRequest

namespace Binder

open BindRequest Argument

variable {request : BindRequest}

theorem bindFrom_front (earlier front rest : List Argument) (left : Nat) (vars : BindVars)
    (fits : request.firstFault? earlier front = none) :
    bindFrom request (front.length + left) (seenOf earlier) ⟨front ++ rest, vars⟩ =
      bindFrom request left (seenOf (earlier ++ front))
        ⟨rest, vars.pushAll (front.flatMap request.valuesOf)⟩ := by
  induction front generalizing earlier vars with
  | nil => simp [BindVars.pushAll]
  | cons argument front ih =>
    rw [firstFault?_cons, Option.or_eq_none_iff] at fits
    have next := ih (earlier ++ [argument]) (vars.pushAll (request.valuesOf argument)) fits.2
    have count : (argument :: front).length + left = front.length + left + 1 := by
      rw [List.length_cons]
      omega
    simp only [count, List.cons_append, bindFrom, accept_seenOf, fits.1, next, List.append_assoc,
      List.flatMap_cons, BindVars.pushAll_append]
    rfl

theorem length_lt_of_take_eq {count : Nat} {arguments kept rest : List Argument}
    {rejected : Argument} (share : arguments.take count = kept ++ rejected :: rest) :
    kept.length < count := by
  have few := List.length_take_le count arguments
  rw [share, List.length_append, List.length_cons] at few
  omega

theorem bind_of_misfit {kept : List Argument} {rejected : Argument} {error : CompileError}
    (count : kept.length < request.arity) (fits : request.firstFault? [] kept = none)
    (fault : request.fault? kept rejected = some error) (rest : List Argument) (vars : BindVars) :
    bind ⟨kept ++ rejected :: rest, vars⟩ request =
      (.error error, ⟨rest, vars.pushAll (kept.flatMap request.valuesOf)⟩) := by
  obtain ⟨left, arity⟩ : ∃ left, request.arity = kept.length + (left + 1) :=
    ⟨request.arity - kept.length - 1, by omega⟩
  have run := bindFrom_front [] kept (rejected :: rest) (left + 1) vars fits
  rw [← arity, List.nil_append, seenOf_nil] at run
  simp only [bind, run, bindFrom, accept_seenOf, fault]

theorem bind_of_shortage {arguments : List Argument} (count : arguments.length < request.arity)
    (fits : request.firstFault? [] arguments = none) (vars : BindVars) :
    bind ⟨arguments, vars⟩ request =
      (.error (.insufficientArguments request.operator request.arity arguments.length),
        ⟨[], vars.pushAll (arguments.flatMap request.valuesOf)⟩) := by
  obtain ⟨left, arity⟩ : ∃ left, request.arity = arguments.length + (left + 1) :=
    ⟨request.arity - arguments.length - 1, by omega⟩
  have run := bindFrom_front [] arguments [] (left + 1) vars fits
  rw [← arity, List.append_nil, List.nil_append, seenOf_nil] at run
  have supplied : request.arity - (left + 1) = arguments.length := by omega
  simp only [bind, run, bindFrom, supplied]

theorem bind_of_error (request : BindRequest) (arguments : List Argument) (vars : BindVars)
    {error : CompileError} (wrong : request.error? (arguments.take request.arity) = some error) :
    (bind ⟨arguments, vars⟩ request).1 = .error error := by
  rw [error?] at wrong
  rcases fits_or_misfit request [] (arguments.take request.arity) with
    fits | ⟨kept, rejected, rest, first, share, fits, misfit, found⟩
  · rw [fits, Option.none_or, List.length_take] at wrong
    split at wrong
    next few =>
      have short : arguments.length < request.arity := by omega
      rw [List.take_of_length_le (Nat.le_of_lt short)] at fits
      rw [Nat.min_eq_right (Nat.le_of_lt short)] at wrong
      rw [bind_of_shortage short fits]
      exact congrArg Except.error (Option.some.inj wrong)
    · cases wrong
  · rw [found, Option.some_or] at wrong
    cases wrong
    rw [← List.take_append_drop request.arity arguments, share, List.append_assoc,
      List.cons_append, bind_of_misfit (length_lt_of_take_eq share) fits misfit]

theorem bind_of_fits (request : BindRequest) (arguments : List Argument) (vars : BindVars)
    (fits : request.error? (arguments.take request.arity) = none) :
    bind ⟨arguments, vars⟩ request =
      (.ok (outcome (arguments.take request.arity)),
        ⟨arguments.drop request.arity,
          vars.pushAll ((arguments.take request.arity).flatMap request.valuesOf)⟩) := by
  rw [error?_eq_none_iff, List.length_take] at fits
  have full : (arguments.take request.arity).length = request.arity := by
    rw [List.length_take]
    omega
  have run := bindFrom_front [] (arguments.take request.arity) (arguments.drop request.arity) 0
    vars fits.1
  rw [full, List.take_append_drop, Nat.add_zero, List.nil_append, seenOf_nil, bindFrom] at run
  simp only [bind, run, outcome, seenOf, nextKey, BindVars.size_pushAll, length_flatMap_valuesOf,
    Nat.add_sub_cancel_left]

end Binder

end FinderQuery
