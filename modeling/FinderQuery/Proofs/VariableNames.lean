import FinderQuery.Proofs.BinderRuns
import FinderQuery.Proofs.GeoVariables
import FinderQuery.Proofs.Json.Numerals
import Mathlib.Data.List.Induction

namespace FinderQuery

theorem eq_digitChar_of_isDigit {c : Char} (digit : c.isDigit) :
    ∃ value < 10, c = Nat.digitChar value := by
  obtain ⟨low, high⟩ : 48 ≤ c.toNat ∧ c.toNat ≤ 57 := by
    simpa [Char.isDigit, UInt32.le_iff_toNat_le] using digit
  have bound : c.toNat - '0'.toNat < 10 := by
    simp only [Char.reduceToNat]
    omega
  refine ⟨c.toNat - '0'.toNat, bound, Char.toNat_inj.mp ?_⟩
  rw [Nat.toNat_digitChar_of_lt_ten bound]
  simp only [Char.reduceToNat]
  omega

theorem toDigits_ofDigitChars {digits : List Char} (filled : digits ≠ [])
    (each : ∀ c ∈ digits, c.isDigit) (leading : digits.head? = some '0' → digits = ['0']) :
    Nat.toDigits 10 (Nat.ofDigitChars 10 digits 0) = digits := by
  induction digits using List.reverseRecOn with
  | nil => exact absurd rfl filled
  | append_singleton front last ih =>
    obtain ⟨value, small, rfl⟩ := eq_digitChar_of_isDigit (each last (by simp))
    rw [Nat.ofDigitChars_append, Nat.ofDigitChars_cons_digitChar_of_lt_ten small,
      Nat.ofDigitChars_nil]
    by_cases alone : front = []
    · rw [alone, Nat.ofDigitChars_nil, Nat.mul_zero, Nat.zero_add]
      exact Nat.toDigits_of_lt_base small
    · have head : front.head? ≠ some '0' := by
        intro zero
        have whole := leading (by rw [List.head?_append_of_ne_nil _ alone, zero])
        exact alone (by simpa using congrArg List.length whole)
      have digits := ih alone (fun c member => each c (by simp [member])) (absurd · head)
      have positive : 0 < Nat.ofDigitChars 10 front 0 := by
        refine Nat.pos_of_ne_zero fun zero => ?_
        rw [zero] at digits
        exact head (digits ▸ rfl)
      rw [← Nat.toDigits_append_toDigits (by omega) positive small, digits,
        Nat.toDigits_of_lt_base small]

/-- The number that a text is the decimal text of: digits alone, and none of them is a zero in front
of others. -/
def decimal? (text : String) : Option Nat :=
  let digits := text.toList
  if digits ≠ [] ∧ digits.all Char.isDigit ∧ (digits.head? = some '0' → digits = ['0']) then
    some (Nat.ofDigitChars 10 digits 0)
  else none

theorem decimal?_eq_some_iff {text : String} {key : Nat} :
    decimal? text = some key ↔ text = keyText key := by
  unfold decimal?
  rw [Option.ite_none_right_eq_some]
  constructor
  · intro given
    obtain ⟨⟨filled, each, leading⟩, value⟩ := given
    apply String.toList_injective
    rw [toList_keyText, ← Option.some.inj value]
    exact (toDigits_ofDigitChars filled (List.all_eq_true.mp each) leading).symm
  · rintro rfl
    have numeral := Numeral.wellFormed_ofNat key
    rw [toList_keyText]
    exact ⟨⟨numeral.whole_ne_nil, List.all_eq_true.mpr numeral.whole, numeral.leading⟩,
      congrArg some Nat.ofDigitChars_ten_toDigits⟩

example : ["0", "10", "01", "+1", ""].map decimal? = [some 0, some 10, none, none, none] := by
  decide

theorem BindVars.get?_ofValues_eq (values : List Value) (name : String) :
    (ofValues values).get? name = (decimal? name).bind (values[·]?) := by
  cases number : decimal? name with
  | some key => rw [decimal?_eq_some_iff.mp number, get?_ofValues, Option.bind_some]
  | none =>
    rw [get?, List.lookup_eq_none_iff.mpr]
    · rfl
    · intro entry member
      have named : entry.1 ∈ (ofValues values).keys := List.mem_map_of_mem member
      rw [keys_ofValues] at named
      obtain ⟨key, -, same⟩ := List.mem_map.mp named
      rw [bne_iff_ne]
      rintro rfl
      rw [decimal?_eq_some_iff.mpr same.symm] at number
      cases number

namespace Binder

def after (binder : Binder) (requests : List BindRequest) : Binder :=
  requests.foldl (fun binder request => (binder.bind request).2) binder

def written (steps : List Step) : List Value := steps.flatMap Step.values

theorem vars_after (binder : Binder) (requests : List BindRequest) :
    (binder.after requests).vars = binder.vars.pushAll (written (run binder requests)) := by
  induction requests generalizing binder with
  | nil => rfl
  | cons request requests ih =>
    obtain ⟨kept, -, course⟩ := Step.exists_course binder request
    have first : (binder.step request).after.vars =
        binder.vars.pushAll (binder.step request).values := course.vars_eq
    have later := ih (binder.step request).after
    rw [first, ← BindVars.pushAll_append] at later
    exact later

/-- After any requests the variables can be looked up by the decimal texts of their numbers, in the
order in which their values were written, and by no other names. -/
theorem lookup_after_run (arguments : List Argument) (requests : List BindRequest) :
    let vars := ((ofArguments arguments).after requests).vars
    let values := written (run (.ofArguments arguments) requests)
    vars.size = values.length ∧
      ∀ name, vars.get? name = (decimal? name).bind (values[·]?) := by
  intro vars values
  have numbered : vars = .ofValues values := by
    have behind := vars_after (ofArguments arguments) requests
    rw [ofArguments, ← BindVars.ofValues_nil, BindVars.pushAll_ofValues] at behind
    exact behind
  rw [numbered]
  exact ⟨BindVars.size_ofValues values, BindVars.get?_ofValues_eq values⟩

end Binder

end FinderQuery
