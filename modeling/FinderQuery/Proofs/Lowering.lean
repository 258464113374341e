import FinderQuery.Proofs.Encoding.Values
import FinderQuery.Proofs.RegexEscapes

namespace FinderQuery

namespace Text

namespace CaseRun

variable {run other : CaseRun} {code : Nat}

def isOutOfStep (run other : CaseRun) : Bool :=
  (run.step == other.step || run.first == run.last) && other.first ≤ run.target &&
    (run.target - other.first) % other.step != 0

/-- Whether `run` lowers to no code point that `other` lowers. The bounds are compared by `Nat.blt`
since this is computed for all pairs of runs. -/
def misses (run other : CaseRun) : Bool :=
  Nat.blt other.last run.target || Nat.blt (run.target + (run.last - run.first)) other.first ||
    run.isOutOfStep other

def lowersToLetters (run : CaseRun) : Bool :=
  let top := run.target + (run.last - run.first)
  'a'.toNat ≤ run.target && (top < 0xD800 || 0xDFFF < run.target && top < 0x110000) &&
    (top < '\u0130'.toNat || '\u0130'.toNat < run.target)

theorem all_miss : lowercaseRuns.all fun run => lowercaseRuns.all run.misses := by decide +kernel

theorem all_lowersToLetters : lowercaseRuns.all lowersToLetters := by decide +kernel

theorem covers_iff :
    run.covers code ↔ run.first ≤ code ∧ code ≤ run.last ∧ (code - run.first) % run.step = 0 := by
  simp [covers, and_assoc]

theorem not_covers_of_misses (misses : run.misses other) (covered : run.covers code) :
    ¬ other.covers (run.target + (code - run.first)) := by
  rw [covers_iff] at covered ⊢
  obtain ⟨lower, upper, stepped⟩ := covered
  intro hit
  obtain ⟨otherLower, otherUpper, otherStepped⟩ := hit
  simp only [CaseRun.misses, isOutOfStep, Bool.or_eq_true, Bool.and_eq_true, Nat.blt_eq,
    beq_iff_eq, decide_eq_true_eq, bne_iff_ne] at misses
  rcases misses with (below | above) | ⟨⟨same, lies⟩, apart⟩
  · omega
  · omega
  · have distance : run.target + (code - run.first) - other.first =
        run.target - other.first + (code - run.first) := by omega
    have inStep : other.step ∣ code - run.first := by
      rcases same with same | single
      · exact same ▸ Nat.dvd_of_mod_eq_zero stepped
      · have start : code - run.first = 0 := by omega
        exact start ▸ Nat.dvd_zero _
    rw [distance, Nat.add_mod, Nat.mod_eq_zero_of_dvd inStep, Nat.add_zero, Nat.mod_mod]
      at otherStepped
    exact apart otherStepped

/-- What a run lowers to comes behind all signs of ASCII, and is fixed by lowering. -/
theorem lowered_of_covers (listed : run ∈ lowercaseRuns) (covered : run.covers code) :
    let form := Char.ofNat (run.target + (code - run.first))
    'a'.toNat ≤ form.toNat ∧ lowerChar form = [form] := by
  intro form
  have letters := List.all_eq_true.mp all_lowersToLetters run listed
  have misses := List.all_eq_true.mp (List.all_eq_true.mp all_miss run listed)
  simp only [lowersToLetters, Bool.and_eq_true, Bool.or_eq_true, decide_eq_true_eq] at letters
  obtain ⟨lower, upper, -⟩ := covers_iff.mp covered
  have valid : (run.target + (code - run.first)).isValidChar := by
    unfold Nat.isValidChar
    omega
  have number : form.toNat = run.target + (code - run.first) := by
    show (Char.ofNat _).toNat = _
    rw [Char.ofNat, dif_pos valid]
    rfl
  have undotted : form ≠ '\u0130' := by
    intro dotted
    rw [dotted] at number
    omega
  have uncovered : lowercaseRuns.find? (·.covers form.toNat) = none := by
    rw [List.find?_eq_none, number]
    exact fun other among => not_covers_of_misses (misses other among) covered
  exact ⟨by omega, by rw [lowerChar, if_neg undotted, uncovered]⟩

end CaseRun

theorem lowerChar_cases {c form : Char} (listed : form ∈ lowerChar c) :
    form = c ∧ lowerChar c = [c] ∨ 'a'.toNat ≤ form.toNat ∧ lowerChar form = [form] := by
  by_cases dotted : c = '\u0130'
  · subst dotted
    have forms : form = 'i' ∨ form = '\u0307' := by simpa [lowerChar] using listed
    rcases forms with rfl | rfl <;> exact Or.inr (by decide +kernel)
  · cases found : lowercaseRuns.find? (·.covers c.toNat) with
    | none =>
      have kept : lowerChar c = [c] := by rw [lowerChar, if_neg dotted, found]
      rw [kept, List.mem_singleton] at listed
      exact Or.inl ⟨listed, kept⟩
    | some run =>
      have covered : run.covers c.toNat := by simpa using List.find?_some found
      rw [lowerChar, if_neg dotted, found, List.mem_singleton] at listed
      subst listed
      exact Or.inr (CaseRun.lowered_of_covers (List.mem_of_find?_eq_some found) covered)

theorem lowerChar_of_mem_lowerChar {c form : Char} (listed : form ∈ lowerChar c) :
    lowerChar form = [form] := by
  rcases lowerChar_cases listed with ⟨rfl, kept⟩ | ⟨-, kept⟩ <;> exact kept

theorem mem_lowerAt {before after : List Char} {c form : Char}
    (listed : form ∈ lowerAt before c after) : lowerChar form = [form] := by
  unfold lowerAt lowerSigma at listed
  split at listed
  · split at listed <;> rw [List.mem_singleton] at listed <;> subst listed <;> decide +kernel
  · exact lowerChar_of_mem_lowerChar listed

theorem mem_lowerAfter {before rest : List Char} {form : Char}
    (listed : form ∈ lowerAfter before rest) : lowerChar form = [form] := by
  induction rest generalizing before with
  | nil => cases listed
  | cons c rest ih =>
    rw [lowerAfter, ← lowerAt, List.mem_append] at listed
    exact listed.elim mem_lowerAt ih

theorem lowerAfter_eq_self_iff {before rest : List Char} :
    lowerAfter before rest = rest ↔ ∀ c ∈ rest, lowerChar c = [c] := by
  induction rest generalizing before with
  | nil => simp [lowerAfter]
  | cons c rest ih =>
    have parts := lowerAt_append_eq_iff before rest (lowerAfter (c :: before) rest) rest c
    rw [ih] at parts
    rw [lowerAfter, ← lowerAt, List.forall_mem_cons]
    exact parts

theorem lowercase_eq_self_iff {text : String} :
    lowercase text = text ↔ ∀ c ∈ text.toList, lowerChar c = [c] := by
  rw [← lowerAfter_eq_self_iff, ← String.toList_inj, toList_lowercase]

@[simp] theorem lowercase_lowercase (text : String) :
    lowercase (lowercase text) = lowercase text := by
  rw [lowercase_eq_self_iff, toList_lowercase]
  exact fun c listed => mem_lowerAfter listed

example : lowercase "\u0130ΑΣ" = "i\u0307ας" ∧ lowercase "i\u0307ας" = "i\u0307ας" := by
  decide +kernel

/-- The lower-case form of a character between two texts: a capital sigma takes its final form if
the letter before it, past all that is case-ignorable, is cased, and the one behind it is not. -/
inductive HasForm (before behind : List Char) : Char → List Char → Prop
  | finalSigma : opensWithCased before.reverse → ¬ opensWithCased behind →
      HasForm before behind 'Σ' ['ς']
  | innerSigma : (opensWithCased before.reverse → opensWithCased behind) →
      HasForm before behind 'Σ' ['σ']
  | own {c : Char} : c ≠ 'Σ' → HasForm before behind c (lowerChar c)

theorem hasForm_iff {before behind form : List Char} {c : Char} :
    HasForm before behind c form ↔ form = lowerAt before.reverse c behind := by
  constructor
  · intro found
    cases found with
    | finalSigma cased stops => simp [lowerAt, lowerSigma, cased, stops]
    | innerSigma goesOn =>
      have inner : ¬ (opensWithCased before.reverse ∧ opensWithCased behind = false) := by
        simpa using goesOn
      simp [lowerAt, lowerSigma, inner]
    | own other => rw [lowerAt, if_neg other]
  · rintro rfl
    unfold lowerAt lowerSigma
    split
    next sigma =>
      subst sigma
      split
      next final =>
        simp only [Bool.and_eq_true, Bool.not_eq_true'] at final
        exact .finalSigma final.1 (by simp [final.2])
      next inner =>
        simp only [Bool.and_eq_true, Bool.not_eq_true', not_and, Bool.not_eq_false] at inner
        exact .innerSigma inner
    next other => exact .own other

/-- The forms of the characters of a text, each in its place, make up the lowered text. -/
def IsLoweredTo (text lowered : String) : Prop :=
  ∃ forms : List (List Char), lowered.toList = forms.flatten ∧
    forms.length = text.toList.length ∧
    ∀ before c behind, text.toList = before ++ c :: behind →
      ∃ form, forms[before.length]? = some form ∧ HasForm before behind c form

def formsAfter : (before rest : List Char) → List (List Char)
  | _, [] => []
  | before, c :: rest => lowerAt before c rest :: formsAfter (c :: before) rest

theorem length_formsAfter (before rest : List Char) :
    (formsAfter before rest).length = rest.length := by
  induction rest generalizing before with
  | nil => rfl
  | cons c rest ih => rw [formsAfter, List.length_cons, ih, List.length_cons]

theorem flatten_formsAfter (before rest : List Char) :
    (formsAfter before rest).flatten = lowerAfter before rest := by
  induction rest generalizing before with
  | nil => rfl
  | cons c rest ih => rw [formsAfter, List.flatten_cons, ih, lowerAfter, lowerAt]

theorem getElem?_formsAfter (earlier before behind : List Char) (c : Char) :
    (formsAfter earlier (before ++ c :: behind))[before.length]? =
      some (lowerAt (before.reverse ++ earlier) c behind) := by
  induction before generalizing earlier with
  | nil => rfl
  | cons first before ih =>
    rw [List.cons_append, formsAfter, List.length_cons, List.getElem?_cons_succ, ih,
      List.reverse_cons, List.append_assoc, List.singleton_append]

theorem isLoweredTo_iff {text lowered : String} :
    IsLoweredTo text lowered ↔ lowered = lowercase text := by
  have formOf (before behind : List Char) (c : Char)
      (split : text.toList = before ++ c :: behind) :
      (formsAfter [] text.toList)[before.length]? = some (lowerAt before.reverse c behind) := by
    rw [split, getElem?_formsAfter, List.append_nil]
  rw [← String.toList_inj, toList_lowercase, ← flatten_formsAfter]
  constructor
  · rintro ⟨forms, joined, length, each⟩
    have same : forms = formsAfter [] text.toList := by
      refine List.ext_getElem? fun position => ?_
      by_cases inside : position < text.toList.length
      · have split : text.toList = text.toList.take position ++
            text.toList[position] :: text.toList.drop (position + 1) := by simp
        have size : (text.toList.take position).length = position :=
          List.length_take_of_le (Nat.le_of_lt inside)
        obtain ⟨form, found, has⟩ := each _ _ _ split
        have other := formOf _ _ _ split
        rw [size] at found other
        rw [found, other, hasForm_iff.mp has]
      · rw [List.getElem?_eq_none (by omega),
          List.getElem?_eq_none (by rw [length_formsAfter]; omega)]
    rw [joined, same]
  · intro joined
    exact ⟨_, joined, length_formsAfter _ _, fun before c behind split =>
      ⟨_, formOf before behind c split, hasForm_iff.mpr rfl⟩⟩

end Text

/-- Two values of one shape: the strings of one stand where those of the other do, and are related
to them, and all else is the same. -/
inductive Value.SameButFor (related : String → String → Prop) : Value → Value → Prop
  | null : SameButFor related .null .null
  | bool (value : Bool) : SameButFor related (.bool value) (.bool value)
  | int (value : Int64) : SameButFor related (.int value) (.int value)
  | float (value : Binary64) : SameButFor related (.float value) (.float value)
  | string {text other : String} : related text other →
      SameButFor related (.string text) (.string other)
  | array {items others : List Value} : List.Forall₂ (SameButFor related) items others →
      SameButFor related (.array items) (.array others)

inductive Argument.SameButFor (related : String → String → Prop) : Argument → Argument → Prop
  | scalar {value other : Value} : value.SameButFor related other →
      SameButFor related (.scalar value) (.scalar other)
  | sequence {items others : List Value} : List.Forall₂ (Value.SameButFor related) items others →
      SameButFor related (.sequence items) (.sequence others)
  | geoPoint (point : Point) : SameButFor related (.geoPoint point) (.geoPoint point)
  | geoRange (range : Range) : SameButFor related (.geoRange range) (.geoRange range)

section

variable {related : String → String → Prop}
  (function : ∀ text other, related text other ↔ other = Text.lowercase text)

include function

theorem Value.sameButFor_iff (value other : Value) :
    value.SameButFor related other ↔ other = value.lowercase := by
  induction value using Value.induction generalizing other with
  | null | bool | int | float =>
    constructor
    · rintro ⟨⟩
      rfl
    · rintro rfl
      constructor
  | string text =>
    constructor
    · rintro ⟨⟩
      next found => rw [(function _ _).mp found, lowercase]
    · rintro rfl
      exact .string ((function _ _).mpr rfl)
  | array items ih =>
    constructor
    · rintro ⟨⟩
      next each => rw [(forall₂_iff_eq_map ih).mp each, lowercase, lowercaseAll_eq_map]
    · rintro rfl
      rw [lowercase, lowercaseAll_eq_map]
      exact .array ((forall₂_iff_eq_map ih).mpr rfl)

theorem Argument.sameButFor_iff (argument other : Argument) :
    argument.SameButFor related other ↔ other = argument.lowercase := by
  have items (listed : List Value) (others : List Value) :
      List.Forall₂ (Value.SameButFor related) listed others ↔
        others = listed.map Value.lowercase :=
    forall₂_iff_eq_map fun value _ => Value.sameButFor_iff function value
  constructor
  · intro same
    cases same with
    | scalar found => rw [(Value.sameButFor_iff function _ _).mp found, lowercase]
    | sequence each => rw [(items _ _).mp each, lowercase]
    | geoPoint | geoRange => rfl
  · rintro rfl
    cases argument with
    | scalar value => exact .scalar ((Value.sameButFor_iff function _ _).mpr rfl)
    | sequence listed => exact .sequence ((items _ _).mpr rfl)
    | geoPoint point => exact .geoPoint point
    | geoRange range => exact .geoRange range

end

@[simp] theorem Value.lowercase_lowercase (value : Value) :
    value.lowercase.lowercase = value.lowercase := by
  induction value using Value.induction with
  | string text => rw [lowercase, lowercase, Text.lowercase_lowercase]
  | array items ih => simpa [lowercase] using ih
  | _ => rfl

@[simp] theorem Argument.lowercase_lowercase (argument : Argument) :
    argument.lowercase.lowercase = argument.lowercase := by
  cases argument <;> simp [lowercase]

/-- Lowering an argument again changes nothing, and lowering it once keeps its shape: each string at
any depth becomes the text that it is lowered to, and all else stays. -/
theorem Argument.lowered_once_and_in_shape (argument : Argument) :
    argument.lowercase.lowercase = argument.lowercase ∧
      ∀ other, argument.SameButFor Text.IsLoweredTo other ↔ other = argument.lowercase :=
  ⟨argument.lowercase_lowercase, argument.sameButFor_iff fun _ _ => Text.isLoweredTo_iff⟩

end FinderQuery
