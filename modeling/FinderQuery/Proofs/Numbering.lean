import FinderQuery.Proofs.Placement
import Mathlib.Data.List.Induction

namespace FinderQuery

open Argument

variable (arguments : List Argument)

def written (parts : List Part) : Nat := slotsOf (arguments.take (arities parts))

def slotsBehind (front : List Part) (part : Part) : Nat :=
  slotsOf ((arguments.drop (arities front)).take part.operator.arity)

theorem written_append (front back : List Part) :
    written arguments (front ++ back) =
      written arguments front + slotsOf ((arguments.drop (arities front)).take (arities back)) := by
  rw [written, arities_append, List.take_add, slotsOf_append, written]

theorem written_append_singleton (front : List Part) (part : Part) :
    written arguments (front ++ [part]) =
      written arguments front + slotsBehind arguments front part := by
  rw [written_append, slotsBehind, arities_cons, arities_nil, Nat.add_zero]

variable {arguments}

theorem written_mono (arguments : List Argument) {front parts : List Part}
    (before : front <+: parts) : written arguments front ≤ written arguments parts := by
  obtain ⟨back, rfl⟩ := before
  rw [written_append]
  omega

theorem written_lt_written_iff {front back : List Part}
    (enough : arities (front ++ back) ≤ arguments.length) :
    written arguments front < written arguments (front ++ back) ↔ 0 < arities back := by
  rw [arities_append] at enough
  rw [written_append]
  cases left : (arguments.drop (arities front)).take (arities back) with
  | nil =>
    have none : arities back = 0 := by
      have short := congrArg List.length left
      rw [List.length_take, List.length_drop, List.length_nil] at short
      omega
    simp [none]
  | cons argument rest =>
    have some : 0 < arities back := by
      have short := congrArg List.length left
      rw [List.length_take, List.length_cons] at short
      omega
    have positive := slots_pos argument
    rw [slotsOf_cons]
    omega

theorem exists_part_of_lt_written {parts : List Part} {key : Nat}
    (bound : key < written arguments parts) :
    ∃ front part back, parts = front ++ part :: back ∧ written arguments front ≤ key ∧
      key < written arguments (front ++ [part]) := by
  induction parts using List.reverseRecOn with
  | nil => exact absurd bound (Nat.not_lt_zero _)
  | append_singleton init last ih =>
    by_cases earlier : key < written arguments init
    · obtain ⟨front, part, back, split, lower, upper⟩ := ih earlier
      refine ⟨front, part, back ++ [last], ?_, lower, upper⟩
      rw [split, List.append_assoc, List.cons_append]
    · exact ⟨init, last, [], rfl, Nat.not_lt.mp earlier, bound⟩

theorem before_or_same_or_behind {front otherFront back otherBack : List Part} {part other : Part}
    (same : front ++ part :: back = otherFront ++ other :: otherBack) :
    front ++ [part] <+: otherFront ∨ (front = otherFront ∧ part = other) ∨
      otherFront ++ [other] <+: front := by
  have first : front ++ [part] <+: front ++ part :: back := ⟨back, by simp⟩
  have second : otherFront ++ [other] <+: front ++ part :: back := ⟨otherBack, by simp [same]⟩
  have firstFront : front <+: front ++ part :: back := List.prefix_append _ _
  have secondFront : otherFront <+: front ++ part :: back := by
    rw [same]
    exact List.prefix_append _ _
  rcases Nat.lt_trichotomy front.length otherFront.length with shorter | equal | longer
  · have fits : (front ++ [part]).length ≤ otherFront.length := by
      rw [List.length_append, List.length_singleton]
      exact shorter
    exact Or.inl (List.prefix_of_prefix_length_le first secondFront fits)
  · obtain ⟨fronts, rest⟩ := List.append_inj same equal
    exact Or.inr (Or.inl ⟨fronts, (List.cons.inj rest).1⟩)
  · have fits : (otherFront ++ [other]).length ≤ front.length := by
      rw [List.length_append, List.length_singleton]
      exact longer
    exact Or.inr (Or.inr (List.prefix_of_prefix_length_le second firstFront fits))

/-- Whether a number is claimed by one of the parts, each of which claims so many from its first one
on. -/
def IsClaimed (arguments : List Argument) (width : List Part → Part → Nat) (parts : List Part)
    (key : Nat) : Prop :=
  ∃ front part back, parts = front ++ part :: back ∧ written arguments front ≤ key ∧
    key < written arguments front + width front part

variable {width : List Part → Part → Nat} {parts front back : List Part} {part : Part}

theorem not_isClaimed_of_excess
    (close : ∀ front part back, parts = front ++ part :: back →
      width front part ≤ slotsBehind arguments front part + 1)
    (split : parts = front ++ part :: back)
    (excess : width front part < slotsBehind arguments front part)
    (several : 2 ≤ slotsBehind arguments front part) :
    ¬ IsClaimed arguments width parts
      (written arguments front + slotsBehind arguments front part - 1) := by
  intro given
  rcases given with ⟨otherFront, other, otherBack, otherSplit, lower, upper⟩
  have last := written_append_singleton arguments front part
  rcases before_or_same_or_behind (split.symm.trans otherSplit) with before | same | behind
  -- A later part starts behind the number; an earlier one claims at most the first of this part.
  · have above := written_mono arguments before
    omega
  · obtain ⟨rfl, rfl⟩ := same
    omega
  · have below := written_mono arguments behind
    have bound := close otherFront other otherBack otherSplit
    rw [written_append_singleton] at below
    omega

/-- Exactly the numbers are claimed that are written, if no part writes more than it claims, and
none that claims more than it writes is the last that writes anything. -/
theorem isClaimed_iff_lt_written_iff
    (close : ∀ front part back, parts = front ++ part :: back →
      width front part ≤ slotsBehind arguments front part + 1)
    (several : ∀ front part back, parts = front ++ part :: back →
      width front part < slotsBehind arguments front part → 2 ≤ slotsBehind arguments front part) :
    (∀ key, IsClaimed arguments width parts key ↔ key < written arguments parts) ↔
      ∀ front part back, parts = front ++ part :: back →
        slotsBehind arguments front part ≤ width front part ∧
          (width front part ≤ slotsBehind arguments front part ∨
            written arguments (front ++ [part]) < written arguments parts) := by
  apply Iff.intro
  · intro exact front part back split
    have reached : written arguments (front ++ [part]) ≤ written arguments parts :=
      written_mono arguments ⟨back, by simp [split]⟩
    have behind := written_append_singleton arguments front part
    apply And.intro
    -- Too few claimed numbers cannot be made up for, as later parts claim later ones only.
    · by_contra excess
      have excess := Nat.not_le.mp excess
      have two := several front part back split excess
      have unclaimed := not_isClaimed_of_excess close split excess two
      rw [exact] at unclaimed
      omega
    · by_cases enough : width front part ≤ slotsBehind arguments front part
      · exact Or.inl enough
      · have claimed : IsClaimed arguments width parts
            (written arguments front + slotsBehind arguments front part) :=
          ⟨front, part, back, split, by omega, by omega⟩
        rw [exact] at claimed
        exact Or.inr (by omega)
  · intro fits key
    apply Iff.intro
    · intro given
      rcases given with ⟨front, part, back, split, lower, upper⟩
      have reached : written arguments (front ++ [part]) ≤ written arguments parts :=
        written_mono arguments ⟨back, by simp [split]⟩
      have behind := written_append_singleton arguments front part
      have bound := close front part back split
      obtain ⟨-, enough | later⟩ := fits front part back split
      · omega
      · omega
    · intro bound
      obtain ⟨front, part, back, split, lower, upper⟩ := exists_part_of_lt_written bound
      have enough := (fits front part back split).1
      rw [written_append_singleton] at upper
      exact ⟨front, part, back, split, lower, by omega⟩

end FinderQuery
