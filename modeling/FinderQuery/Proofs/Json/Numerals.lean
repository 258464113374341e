import FinderQuery.Json.Number
import Mathlib.Data.List.TakeWhile

namespace FinderQuery

theorem head?_toDigits_ne_zero {n : Nat} (positive : 0 < n) :
    (Nat.toDigits 10 n).head? ≠ some '0' := by
  induction n using Nat.strongRecOn with
  | ind n ih =>
    by_cases small : n < 10
    · have nonzero : ∀ d < 10, 0 < d → d.digitChar ≠ '0' := by decide
      rw [Nat.toDigits_of_lt_base small, List.head?_cons]
      exact fun same => nonzero n small positive (Option.some.inj same)
    · rw [Nat.toDigits_of_base_le (by omega) (by omega), List.head?_append,
        Option.or_of_isSome (by simp [Nat.toDigits_ne_nil])]
      exact ih (n / 10) (by omega) (by omega)

theorem isDigit_of_mem_toDigits {n : Nat} : ∀ c ∈ Nat.toDigits 10 n, c.isDigit :=
  fun _ => Nat.isDigit_of_mem_toDigits (by omega) (by omega)

theorem tenTo_pos (places : Nat) : 0 < Numeral.tenTo places := Nat.pow_pos (by omega)

theorem tenTo_le {n places : Nat} (positive : 0 < n) (fewer : places < (Nat.toDigits 10 n).length) :
    Numeral.tenTo places ≤ n := by
  cases places with
  | zero => exact positive
  | succ places =>
    refine Nat.le_of_not_lt fun below => ?_
    have short := (Nat.length_toDigits_le_iff (by omega) (by omega)).mpr below
    omega

namespace Numeral

/-- Nothing at the beginning of this text could be a part of a numeral before it. -/
def EndsBefore (rest : List Char) : Prop :=
  ∀ c ∈ rest.head?, ¬ c.isDigit ∧ c ≠ '.' ∧ c ≠ 'e' ∧ c ≠ 'E'

structure WellFormed (n : Numeral) : Prop where
  whole_ne_nil : n.whole ≠ []
  whole : ∀ c ∈ n.whole, c.isDigit
  leading : n.whole.head? = some '0' → n.whole = ['0']
  fraction : ∀ c ∈ n.fraction, c.isDigit
  exponent : ∀ e ∈ n.exponent, e.digits ≠ [] ∧ ∀ c ∈ e.digits, c.isDigit

section

variable {digits rest : List Char}

theorem takeWhile_isDigit_of_head? (apart : ∀ c ∈ rest.head?, ¬ c.isDigit) :
    rest.takeWhile Char.isDigit = [] := by
  cases rest with
  | nil => rfl
  | cons c rest => exact List.takeWhile_cons_of_neg (apart c rfl)

theorem dropWhile_isDigit_of_head? (apart : ∀ c ∈ rest.head?, ¬ c.isDigit) :
    rest.dropWhile Char.isDigit = rest := by
  cases rest with
  | nil => rfl
  | cons c rest => exact List.dropWhile_cons_of_neg (apart c rfl)

theorem readDigits?_append (filled : digits ≠ []) (each : ∀ c ∈ digits, c.isDigit)
    (apart : ∀ c ∈ rest.head?, ¬ c.isDigit) :
    readDigits? (digits ++ rest) = some (digits, rest) := by
  have taken : (digits ++ rest).takeWhile Char.isDigit = digits := by
    rw [List.takeWhile_append_of_pos each, takeWhile_isDigit_of_head? apart, List.append_nil]
  have left : (digits ++ rest).dropWhile Char.isDigit = rest := by
    rw [List.dropWhile_append_of_pos each, dropWhile_isDigit_of_head? apart]
  simp [readDigits?, taken, left, filled]

theorem readWhole?_append (filled : digits ≠ []) (each : ∀ c ∈ digits, c.isDigit)
    (leading : digits.head? = some '0' → digits = ['0'])
    (apart : ∀ c ∈ rest.head?, ¬ c.isDigit) :
    readWhole? (digits ++ rest) = some (digits, rest) := by
  cases digits with
  | nil => exact absurd rfl filled
  | cons first others =>
    rw [List.cons_append, readWhole?]
    by_cases zero : first = '0'
    · subst zero
      obtain ⟨-, rfl⟩ := List.cons.inj (leading rfl)
      rfl
    · rw [List.forall_mem_cons] at each
      rw [if_neg zero, if_pos each.1, List.takeWhile_append_of_pos each.2,
        List.dropWhile_append_of_pos each.2, takeWhile_isDigit_of_head? apart,
        dropWhile_isDigit_of_head? apart, List.append_nil]

theorem readFraction?_append (each : ∀ c ∈ digits, c.isDigit)
    (apart : ∀ c ∈ rest.head?, ¬ c.isDigit ∧ c ≠ '.') :
    readFraction? ((if digits.isEmpty then [] else '.' :: digits) ++ rest) =
      some (digits, rest) := by
  cases digits with
  | nil =>
    cases rest with
    | nil => rfl
    | cons c rest => simp [readFraction?, (apart c rfl).2]
  | cons first others =>
    exact readDigits?_append (List.cons_ne_nil _ _) each fun c head => (apart c head).1

theorem readExponent?_append {exponent : Option Exponent}
    (each : ∀ e ∈ exponent, e.digits ≠ [] ∧ ∀ c ∈ e.digits, c.isDigit)
    (ends : EndsBefore rest) :
    readExponent? (exponent.elim [] Exponent.toList ++ rest) = some (exponent, rest) := by
  cases exponent with
  | none =>
    cases rest with
    | nil => rfl
    | cons c rest =>
      obtain ⟨-, -, small, capital⟩ := ends c rfl
      simp [readExponent?, small, capital]
  | some e =>
    obtain ⟨negative, digits⟩ := e
    obtain ⟨filled, all⟩ := each _ rfl
    have read : ∀ sign, readExponentDigits? sign (digits ++ rest) =
        some (some ⟨sign, digits⟩, rest) := by
      intro sign
      rw [readExponentDigits?, readDigits?_append filled all fun c head => (ends c head).1]
      rfl
    cases negative with
    | false => exact read false
    | true => exact read true

end

theorem toList_eq (n : Numeral) :
    n.toList = (if n.negative then ['-'] else []) ++ (n.whole ++
      ((if n.fraction.isEmpty then [] else '.' :: n.fraction) ++
        n.exponent.elim [] Exponent.toList)) := by
  rw [toList, List.append_assoc, List.append_assoc]
  cases n.exponent <;> rfl

namespace WellFormed

variable {n : Numeral} {rest : List Char}

theorem readUnsigned?_append (wellFormed : n.WellFormed) (ends : EndsBefore rest) :
    readUnsigned? n.negative (n.whole ++
      ((if n.fraction.isEmpty then [] else '.' :: n.fraction) ++
        (n.exponent.elim [] Exponent.toList ++ rest))) = some (n, rest) := by
  -- What follows the whole digits is a point, an exponent or the rest; likewise for the fraction.
  have behind : ∀ c ∈ (n.exponent.elim [] Exponent.toList ++ rest).head?,
      ¬ c.isDigit ∧ c ≠ '.' := by
    cases n.exponent with
    | none => exact fun c head => ⟨(ends c head).1, (ends c head).2.1⟩
    | some e =>
      intro c head
      cases head
      decide
  have middle : ∀ c ∈ ((if n.fraction.isEmpty then [] else '.' :: n.fraction) ++
      (n.exponent.elim [] Exponent.toList ++ rest)).head?, ¬ c.isDigit := by
    cases n.fraction with
    | nil => exact fun c head => (behind c head).1
    | cons first others =>
      intro c head
      cases head
      decide
  rw [readUnsigned?, readWhole?_append wellFormed.whole_ne_nil wellFormed.whole
    wellFormed.leading middle]
  simp only [Option.bind_eq_bind, Option.bind_some]
  rw [readFraction?_append wellFormed.fraction behind]
  simp only [Option.bind_some]
  rw [readExponent?_append wellFormed.exponent ends]
  rfl

theorem exists_toList_eq_cons (wellFormed : n.WellFormed) :
    ∃ first others, n.toList = first :: others ∧ (first = '-' ∨ first.isDigit) := by
  rw [toList_eq]
  obtain ⟨first, others, whole⟩ := List.exists_cons_of_ne_nil wellFormed.whole_ne_nil
  cases n.negative with
  | false =>
    have digit : first.isDigit := wellFormed.whole first (by simp [whole])
    exact ⟨first, _, by rw [whole]; rfl, Or.inr digit⟩
  | true => exact ⟨'-', _, rfl, Or.inl rfl⟩

theorem read?_append (wellFormed : n.WellFormed) (ends : EndsBefore rest) :
    read? (n.toList ++ rest) = some (n, rest) := by
  have unsigned := wellFormed.readUnsigned?_append ends
  rw [toList_eq]
  simp only [List.append_assoc]
  cases sign : n.negative with
  | true =>
    rw [sign] at unsigned
    exact unsigned
  | false =>
    obtain ⟨first, others, whole⟩ := List.exists_cons_of_ne_nil wellFormed.whole_ne_nil
    have unlike : first ≠ '-' := by
      rintro rfl
      exact absurd (wellFormed.whole '-' (by simp [whole])) (by decide)
    rw [sign, whole, List.cons_append] at unsigned
    rw [whole, if_neg (by simp), List.nil_append, List.cons_append, read?]
    · exact unsigned
    · exact fun rest same => unlike (List.cons.inj same).1

end WellFormed

theorem wellFormed_ofNat (n : Nat) : (ofNat n).WellFormed where
  whole_ne_nil := Nat.toDigits_ne_nil
  whole := isDigit_of_mem_toDigits
  leading zero := by
    rcases Nat.eq_zero_or_pos n with rfl | positive
    · rfl
    · exact absurd zero (head?_toDigits_ne_zero positive)
  fraction := by simp [ofNat]
  exponent := by simp [ofNat]

theorem wellFormed_ofInt (i : Int) : (ofInt i).WellFormed := by
  obtain ⟨filled, whole, leading, fraction, exponent⟩ := wellFormed_ofNat i.natAbs
  exact ⟨filled, whole, leading, fraction, exponent⟩

end Numeral

namespace Json.Number

theorem ofNumeral?_ofNat {n : Nat} (fits : n < UInt64.size) :
    ofNumeral? (.ofNat n) = some (.integer n) := by
  have value : Numeral.natOfDigits (Nat.toDigits 10 n) = n := Nat.ofDigitChars_ten_toDigits
  simp [ofNumeral?, Numeral.ofNat, Numeral.isInteger, value, fits]

theorem ofNumeral?_ofInt {i : Int} (low : -(Numeral.signedBound : Int) ≤ i)
    (high : i < Numeral.signedBound) : ofNumeral? (.ofInt i) = some (.integer i) := by
  have value : Numeral.natOfDigits (Nat.toDigits 10 i.natAbs) = i.natAbs :=
    Nat.ofDigitChars_ten_toDigits
  rw [Numeral.signedBound] at low high
  rw [Numeral.ofInt, Numeral.ofNat]
  by_cases negative : i < 0
  · have positive : 0 < i.natAbs := by omega
    have bounded : i.natAbs ≤ Numeral.signedBound := by rw [Numeral.signedBound]; omega
    have back : -(i.natAbs : Int) = i := by omega
    generalize i.natAbs = m at value positive bounded back ⊢
    simp [ofNumeral?, Numeral.isInteger, value, negative, positive, bounded, back]
  · have fits : i.natAbs < UInt64.size := by
      have size : UInt64.size = 18446744073709551616 := rfl
      omega
    have back : (i.natAbs : Int) = i := by omega
    generalize i.natAbs = m at value fits back ⊢
    simp [ofNumeral?, Numeral.isInteger, value, negative, fits, back]

end Json.Number

namespace Magnitude

theorem unitsOf_pos {rank : Nat} (positive : 0 < rank) : 0 < unitsOf rank := by
  have significand : 0 < significandOf rank := by
    have scale : 0 < perScale := by decide
    rw [significandOf]
    split <;> omega
  rw [unitsOf, Nat.shiftLeft_eq]
  exact Nat.mul_pos significand (Nat.two_pow_pos _)

variable {m : Magnitude} {d : Decimal} {power : Int}

theorem isNearestOf_zero (nonzero : m ≠ .zero) {den : Nat} (positive : 0 < den) :
    m.isNearestOf 0 den = false := by
  have rank : 0 < m.rank := by
    refine Nat.pos_of_ne_zero fun none => nonzero ?_
    obtain ⟨rank, bound⟩ := m
    cases none
    rfl
  have units : 0 < m.units := unitsOf_pos rank
  have low : 0 < (unitsOf (m.rank - 1) + m.units) * den := Nat.mul_pos (by omega) positive
  rw [isNearestOf, Nat.mul_zero, Nat.zero_mul]
  split
  · simp
    omega
  · simp

theorem decimalAt?_digits_pos (nonzero : m ≠ .zero) (found : m.decimalAt? power = some d) :
    0 < d.digits := by
  have fits : ∀ digits, m.isNearestOf (digits * Numeral.tenTo power.toNat)
      (Numeral.tenTo (-power).toNat) → 0 < digits := by
    intro digits near
    refine Nat.pos_of_ne_zero fun none => ?_
    rw [none, Nat.zero_mul, isNearestOf_zero nonzero (tenTo_pos _)] at near
    cases near
  simp only [decimalAt?] at found
  split at found
  next near =>
    cases found
    exact fits _ near
  · split at found
    next near =>
      cases found
      exact fits _ near
    · cases found

theorem shortestFrom_digits_pos (nonzero : m ≠ .zero) {places : Nat}
    (found : m.shortestFrom power places = some d) : 0 < d.digits := by
  induction places generalizing power with
  | zero => cases found
  | succ places ih =>
    rw [shortestFrom] at found
    cases here : m.decimalAt? power with
    | some decimal =>
      rw [here, Option.some_or] at found
      cases found
      exact decimalAt?_digits_pos nonzero here
    | none =>
      rw [here, Option.none_or] at found
      exact ih found

theorem shortest?_digits_pos (found : m.shortest? = some d) : 0 < d.digits := by
  rw [shortest?] at found
  split at found
  · cases found
  next nonzero => exact shortestFrom_digits_pos nonzero found

end Magnitude

theorem Decimal.trim_digits_pos {d : Decimal} (positive : 0 < d.digits) : 0 < d.trim.digits := by
  -- The first digit is no zero, so not all of them are dropped.
  have shorter : ((Nat.toDigits 10 d.digits).reverse.takeWhile (· = '0')).length <
      (Nat.toDigits 10 d.digits).length := by
    refine Nat.lt_of_not_le fun all => ?_
    have full := (List.takeWhile_prefix (· = '0') (l := (Nat.toDigits 10 d.digits).reverse)
      ).eq_of_length_le (by rw [List.length_reverse]; exact all)
    rw [List.takeWhile_eq_self_iff] at full
    obtain ⟨first, others, digits⟩ := List.exists_cons_of_ne_nil
      (Nat.toDigits_ne_nil (n := d.digits) (b := 10))
    have zero := full first (by simp [digits])
    exact head?_toDigits_ne_zero positive (by simpa [digits] using zero)
  exact Nat.div_pos (tenTo_le positive shorter) (tenTo_pos _)

namespace Binary64

theorem wellFormed_layOut (negative : Bool) {d : Decimal} (positive : 0 < d.digits) :
    (layOut negative d).WellFormed := by
  have each := isDigit_of_mem_toDigits (n := d.digits)
  have leading := head?_toDigits_ne_zero positive
  have zeros : ∀ count, ∀ c ∈ List.replicate count '0', c.isDigit := by
    intro count c member
    rw [List.eq_of_mem_replicate member]
    decide
  obtain ⟨first, others, digits⟩ := List.exists_cons_of_ne_nil
    (Nat.toDigits_ne_nil (n := d.digits) (b := 10))
  rw [layOut]
  rw [digits] at each leading ⊢
  split
  · split
    · refine ⟨List.cons_ne_nil _ _, ?_, ?_, zeros 1, by simp⟩
      · intro c member
        rcases List.mem_append.mp member with member | member
        · exact each c member
        · exact zeros _ c member
      · exact fun zero => absurd zero leading
    · split
      · refine ⟨List.cons_ne_nil _ _, ?_, ?_, ?_, by simp⟩
        · exact fun c member => each c (List.mem_of_mem_take member)
        · exact fun zero => absurd zero leading
        · exact fun c member => each c (List.mem_of_mem_drop member)
      · refine ⟨List.cons_ne_nil _ _, zeros 1, fun _ => rfl, ?_, by simp⟩
        intro c member
        rcases List.mem_append.mp member with member | member
        · exact zeros _ c member
        · exact each c member
  · refine ⟨List.cons_ne_nil _ _, ?_, ?_, ?_, ?_⟩
    · intro c member
      exact each c (List.mem_of_mem_take member)
    · exact fun zero => absurd zero leading
    · exact fun c member => each c (List.mem_of_mem_drop member)
    · intro e found
      cases found
      exact ⟨Nat.toDigits_ne_nil, isDigit_of_mem_toDigits⟩

theorem isInteger_layOut (negative : Bool) (d : Decimal) :
    (layOut negative d).isInteger = false := by
  rw [layOut]
  split
  · split
    · rfl
    · split
      next fraction behind =>
        have short : (Nat.toDigits 10 d.digits).drop
            ((d.power + ((Nat.toDigits 10 d.digits).length - 1 : Nat)).toNat + 1) ≠ [] := by
          rw [ne_eq, List.drop_eq_nil_iff]
          omega
        simp [Numeral.isInteger, short]
      · simp [Numeral.isInteger, Nat.toDigits_ne_nil]
  · simp [Numeral.isInteger]

/-- The text of a double is read as the same double. Reading rounds more than once, so this does
not hold of all of them. -/
def ReadsBack (x : Binary64) : Prop :=
  ∀ n ∈ x.numeral?, n.scaled?.map (.finite n.negative) = some x

instance (x : Binary64) : Decidable x.ReadsBack :=
  match h : x.numeral? with
  | none => .isTrue fun n found => by simp [h] at found
  | some n =>
    decidable_of_iff (n.scaled?.map (.finite n.negative) = some x) (by simp [ReadsBack, h])

variable {x : Binary64} {n : Numeral}

theorem exists_numeral?_iff : (∃ n, x.numeral? = some n) ↔ x.isFinite := by
  cases x with
  | nan => simp [numeral?, isFinite]
  | infinity negative => simp [numeral?, isFinite]
  | finite negative magnitude =>
    rw [numeral?]
    cases magnitude.shortest? <;> simp [isFinite]

theorem wellFormed_numeral? (found : x.numeral? = some n) : n.WellFormed := by
  cases x with
  | nan => cases found
  | infinity negative => cases found
  | finite negative magnitude =>
    rw [numeral?] at found
    cases shortest : magnitude.shortest? with
    | some decimal =>
      rw [shortest] at found
      cases found
      exact wellFormed_layOut _ (Decimal.trim_digits_pos (Magnitude.shortest?_digits_pos shortest))
    | none =>
      rw [shortest] at found
      cases found
      have zero : ∀ c ∈ ['0'], c.isDigit := List.forall_mem_singleton.mpr rfl
      exact ⟨List.cons_ne_nil _ _, zero, fun _ => rfl, zero, by simp⟩

theorem isInteger_numeral? (found : x.numeral? = some n) : n.isInteger = false := by
  cases x with
  | nan => cases found
  | infinity negative => cases found
  | finite negative magnitude =>
    rw [numeral?] at found
    cases shortest : magnitude.shortest? with
    | some decimal =>
      rw [shortest] at found
      cases found
      exact isInteger_layOut _ _
    | none =>
      rw [shortest] at found
      cases found
      rfl

theorem ReadsBack.ofNumeral? (back : x.ReadsBack) (found : x.numeral? = some n) :
    Json.Number.ofNumeral? n = some (.float x) := by
  have fraction := isInteger_numeral? found
  have same := back n found
  rw [Option.map_eq_some_iff] at same
  obtain ⟨magnitude, read, rfl⟩ := same
  simp [Json.Number.ofNumeral?, fraction, read]

end Binary64

end FinderQuery
