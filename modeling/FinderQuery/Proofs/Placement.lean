import FinderQuery.CasePolicy
import FinderQuery.Proofs.Templates
import Mathlib.Data.List.Induction

namespace FinderQuery

open Argument

def arities : List Part → Nat
  | [] => 0
  | part :: rest => part.operator.arity + arities rest

@[simp] theorem arities_nil : arities [] = 0 := rfl

@[simp] theorem arities_cons (part : Part) (rest : List Part) :
    arities (part :: rest) = part.operator.arity + arities rest := rfl

@[simp] theorem arities_append (front back : List Part) :
    arities (front ++ back) = arities front + arities back := by
  induction front with
  | nil => simp
  | cons part rest ih => rw [List.cons_append, arities_cons, arities_cons, ih, Nat.add_assoc]

theorem arities_le_of_prefix {front parts : List Part} (before : front <+: parts) :
    arities front ≤ arities parts := by
  obtain ⟨back, rfl⟩ := before
  rw [arities_append]
  omega

def anyGeo (parts : List Part) : Bool := parts.any (·.operator.isGeo)

@[simp] theorem anyGeo_append (front back : List Part) :
    anyGeo (front ++ back) = (anyGeo front || anyGeo back) := List.any_append

theorem anyGeo_flatten_iff {groups : List (List Part)} :
    anyGeo groups.flatten ↔ ∃ group ∈ groups, anyGeo group := by
  rw [anyGeo, List.any_flatten, List.any_eq_true]
  rfl

theorem anyGeo_iff {parts : List Part} :
    anyGeo parts ↔ ∃ before part, (before, part) ∈ withEarlier [] parts ∧ part.operator.isGeo := by
  rw [anyGeo, List.any_eq_true]
  apply Iff.intro
  · intro given
    rcases given with ⟨part, member, geo⟩
    obtain ⟨front, back, split⟩ := List.append_of_mem member
    exact ⟨front, part, mem_withEarlier.mpr ⟨front, back, split, rfl⟩, geo⟩
  · intro given
    rcases given with ⟨before, part, listed, geo⟩
    obtain ⟨front, back, rfl, -⟩ := mem_withEarlier.mp listed
    exact ⟨part, by simp, geo⟩

theorem arities_le_iff {parts : List Part} {count : Nat} :
    arities parts ≤ count ↔
      ∀ front part back, parts = front ++ part :: back →
        part.operator.arity ≤ count - arities front := by
  apply Iff.intro
  · intro enough front part back same
    subst same
    rw [arities_append, arities_cons] at enough
    omega
  · intro each
    induction parts using List.reverseRecOn with
    | nil => simp
    | append_singleton init last ih =>
      have before : arities init ≤ count := by
        refine ih fun front part back split => each front part (back ++ [last]) ?_
        rw [split, List.append_assoc, List.cons_append]
      have here := each init last [] rfl
      rw [arities_append, arities_cons, arities_nil]
      omega

theorem countP_isGeo_pos_iff {parts : List Part} :
    0 < parts.countP (·.operator.isGeo) ↔ anyGeo parts := by
  rw [List.countP_pos_iff, anyGeo, List.any_eq_true]

theorem countP_isGeo_le_one_iff {parts : List Part} :
    parts.countP (·.operator.isGeo) ≤ 1 ↔
      ∀ front part back, parts = front ++ part :: back →
        ¬ (part.operator.isGeo ∧ anyGeo front) := by
  apply Iff.intro
  · intro single front part back same given
    subst same
    rcases given with ⟨geo, before⟩
    have first := countP_isGeo_pos_iff.mpr before
    rw [List.countP_append, List.countP_cons, if_pos geo] at single
    omega
  · intro each
    induction parts using List.reverseRecOn with
    | nil => simp
    | append_singleton init last ih =>
      have before : init.countP (·.operator.isGeo) ≤ 1 := by
        refine ih fun front part back split => each front part (back ++ [last]) ?_
        rw [split, List.append_assoc, List.cons_append]
      have here := each init last [] rfl
      rw [← countP_isGeo_pos_iff] at here
      rw [List.countP_append, List.countP_singleton]
      split
      next geo =>
        have none : ¬ 0 < init.countP (·.operator.isGeo) := fun some => here ⟨geo, some⟩
        omega
      · omega

def isDonut : Operator → List Argument → Bool
  | .within, [.geoPoint _, .geoRange _] => true
  | _, _ => false

theorem isDonut_iff {operator : Operator} {share : List Argument} :
    isDonut operator share ↔
      operator = .within ∧ ∃ point range, share = [geoPoint point, geoRange range] := by
  apply Iff.intro
  · intro donut
    unfold isDonut at donut
    split at donut
    · exact ⟨rfl, _, _, rfl⟩
    · cases donut
  · intro given
    rcases given with ⟨rfl, point, range, rfl⟩
    rfl

theorem any_isRange_iff_isDonut {request : BindRequest} {share : List Argument}
    (short : share.length ≤ 2) (fits : request.firstFault? [] share = none) :
    share.any isRange ↔ isDonut request.operator share := by
  obtain ⟨operator, arity, ignoreCase, mode⟩ := request
  rcases share with _ | ⟨first, _ | ⟨second, _ | ⟨third, rest⟩⟩⟩
  · simp [isDonut]
  · cases first <;> simp [BindRequest.fault?, isRange, isDonut] at fits ⊢
  · rcases first with _ | _ | _ | _ <;> rcases second with _ | _ | _ | _ <;>
      simp [BindRequest.fault?, isRange, isPoint, isDonut] at fits ⊢
    rw [fits]
  · simp at short

theorem outcome_eq_geoDonut_iff {share : List Argument} :
    BindRequest.outcome share = .geoDonut ↔ share.any isRange := by
  simp [BindRequest.outcome]

/-- A part in its place: after whole groups, and after other parts of its own group. -/
structure Placement where
  groupsBefore : List (List Part)
  partsBefore : List Part
  part : Part

namespace Placement

def earlier (place : Placement) : List Part := place.groupsBefore.flatten ++ place.partsBefore

/-- The arguments that a part owns: those behind the shares of all earlier parts, as many as its
operator consumes. -/
def share (place : Placement) (arguments : List Argument) : List Argument :=
  (arguments.drop (arities place.earlier)).take place.part.operator.arity

/-- The number of a part's first variable: how many the earlier shares are written as. -/
def firstKey (place : Placement) (arguments : List Argument) : Nat :=
  slotsOf (arguments.take (arities place.earlier))

theorem length_share_le (place : Placement) (arguments : List Argument) :
    (place.share arguments).length ≤ 2 :=
  Nat.le_trans (List.length_take_le _ _) (Operator.arity_le_two _)

theorem firstKey_add_share (place : Placement) (arguments : List Argument) :
    place.firstKey arguments + slotsOf (place.share arguments) =
      slotsOf (arguments.take (arities (place.earlier ++ [place.part]))) := by
  rw [arities_append, arities_cons, arities_nil, Nat.add_zero, List.take_add, slotsOf_append]
  rfl

end Placement

def placements (groupsBefore rest : List (List Part)) : List Placement :=
  (withEarlier groupsBefore rest).flatMap fun (groupsBefore, group) =>
    (withEarlier [] group).map fun (partsBefore, part) => ⟨groupsBefore, partsBefore, part⟩

theorem mem_placements {groupsBefore rest : List (List Part)} {place : Placement} :
    place ∈ placements groupsBefore rest ↔
      ∃ group, (place.groupsBefore, group) ∈ withEarlier groupsBefore rest ∧
        (place.partsBefore, place.part) ∈ withEarlier [] group := by
  obtain ⟨before, partsBefore, part⟩ := place
  simp only [placements, List.mem_flatMap, List.mem_map, Prod.exists, Placement.mk.injEq]
  apply Iff.intro
  · intro given
    rcases given with ⟨before, group, listed, partsBefore, part, within, rfl, rfl, rfl⟩
    exact ⟨group, listed, within⟩
  · intro given
    rcases given with ⟨group, listed, within⟩
    exact ⟨before, group, listed, partsBefore, part, within, rfl, rfl, rfl⟩

def placesIn (groupsBefore : List (List Part)) (group : List Part) : List Placement :=
  (withEarlier [] group).map fun (partsBefore, part) => ⟨groupsBefore, partsBefore, part⟩

theorem map_part_placesIn (groupsBefore : List (List Part)) (group : List Part) :
    (placesIn groupsBefore group).map Placement.part = group := by
  rw [placesIn, List.map_map]
  exact map_snd_withEarlier [] group

theorem all_isGeo_placesIn (groupsBefore : List (List Part)) (group : List Part) :
    (placesIn groupsBefore group).all (·.part.operator.isGeo) = group.all (·.operator.isGeo) := by
  conv_rhs => rw [← map_part_placesIn groupsBefore group, List.all_map]
  rfl

theorem mem_placements_of_placesIn {tree groupsBefore : List (List Part)} {group : List Part}
    {place : Placement} (listed : (groupsBefore, group) ∈ withEarlier [] tree)
    (member : place ∈ placesIn groupsBefore group) : place ∈ placements [] tree := by
  obtain ⟨entry, within, rfl⟩ := List.mem_map.mp member
  exact mem_placements.mpr ⟨group, listed, within⟩

theorem map_earlier_placements (groupsBefore rest : List (List Part)) :
    (placements groupsBefore rest).map (fun place => (place.earlier, place.part)) =
      withEarlier groupsBefore.flatten rest.flatten := by
  have grouped (groupsBefore : List (List Part)) (partsBefore group : List Part) :
      ((withEarlier partsBefore group).map fun (partsBefore, part) =>
          Placement.mk groupsBefore partsBefore part).map
        (fun place => (place.earlier, place.part)) =
      withEarlier (groupsBefore.flatten ++ partsBefore) group := by
    induction group generalizing partsBefore with
    | nil => rfl
    | cons part rest ih =>
      have later := ih (partsBefore ++ [part])
      rw [← List.append_assoc] at later
      simp only [withEarlier, List.map_cons, later]
      rfl
  induction rest generalizing groupsBefore with
  | nil => rfl
  | cons group rest ih =>
    have first := grouped groupsBefore [] group
    have later := ih (groupsBefore ++ [group])
    simp only [placements, List.append_nil, List.flatten_append, List.flatten_cons,
      List.flatten_nil] at first later
    simp only [placements, withEarlier, List.flatMap_cons, List.map_append, first, later,
      List.flatten_cons, withEarlier_append]

theorem forall_placements_iff {tree : List (List Part)} {P : List Part → Part → Prop} :
    (∀ place ∈ placements [] tree, P place.earlier place.part) ↔
      ∀ front part back, tree.flatten = front ++ part :: back → P front part := by
  have places := map_earlier_placements [] tree
  rw [List.flatten_nil] at places
  apply Iff.intro
  · intro all front part back split
    have listed : (front, part) ∈ withEarlier [] tree.flatten :=
      mem_withEarlier.mpr ⟨front, back, split, rfl⟩
    rw [← places] at listed
    obtain ⟨place, member, same⟩ := List.mem_map.mp listed
    cases same
    exact all place member
  · intro all place member
    have listed : (place.earlier, place.part) ∈ withEarlier [] tree.flatten := by
      rw [← places]
      exact List.mem_map_of_mem member
    obtain ⟨front, back, split, same⟩ := mem_withEarlier.mp listed
    rw [List.nil_append] at same
    exact all _ _ back (same ▸ split)

theorem exists_placements_iff {tree : List (List Part)} {P : List Part → Part → Prop} :
    (∃ place ∈ placements [] tree, P place.earlier place.part) ↔
      ∃ front part back, tree.flatten = front ++ part :: back ∧ P front part := by
  have none : (∀ place ∈ placements [] tree, ¬ P place.earlier place.part) ↔
      ∀ front part back, tree.flatten = front ++ part :: back → ¬ P front part :=
    forall_placements_iff (P := fun front part => ¬ P front part)
  simpa only [not_forall, not_not, exists_prop] using not_congr none

/-- The shares of all parts are the arguments up to the last one that is consumed. -/
theorem flatMap_share (arguments : List Argument) (tree : List (List Part)) :
    (placements [] tree).flatMap (·.share arguments) =
      arguments.take (arities tree.flatten) := by
  have run (earlier parts : List Part) :
      (withEarlier earlier parts).flatMap (fun (earlier, part) =>
          (arguments.drop (arities earlier)).take part.operator.arity) =
        (arguments.drop (arities earlier)).take (arities parts) := by
    induction parts generalizing earlier with
    | nil => simp [withEarlier]
    | cons part rest ih =>
      have behind : arities (earlier ++ [part]) = arities earlier + part.operator.arity := by simp
      rw [withEarlier, List.flatMap_cons, ih, behind, arities_cons, List.take_add, List.drop_drop]
  have places := map_earlier_placements [] tree
  rw [List.flatten_nil] at places
  have shares := run [] tree.flatten
  rw [← places, List.flatMap_map, arities_nil, List.drop_zero] at shares
  exact shares

namespace Placement

variable {tree : List (List Part)} {arguments : List Argument}

theorem forall_part_iff {P : Part → Prop} :
    (∀ place ∈ placements [] tree, P place.part) ↔ ∀ part ∈ tree.flatten, P part := by
  rw [forall_placements_iff (P := fun _ part => P part)]
  apply Iff.intro
  · intro each part member
    obtain ⟨front, back, split⟩ := List.append_of_mem member
    exact each front part back split
  · intro each front part back split
    exact each part (by simp [split])

theorem forall_share_iff {P : Argument → Prop} :
    (∀ place ∈ placements [] tree, ∀ argument ∈ place.share arguments, P argument) ↔
      ∀ argument ∈ arguments.take (arities tree.flatten), P argument := by
  simp only [← flatMap_share, List.mem_flatMap]
  exact ⟨fun each argument ⟨place, member, owned⟩ => each place member argument owned,
    fun each place member argument owned => each argument ⟨place, member, owned⟩⟩

theorem forall_arity_le_iff :
    (∀ place ∈ placements [] tree,
      place.part.operator.arity ≤ (place.share arguments).length) ↔
      arities tree.flatten ≤ arguments.length := by
  rw [arities_le_iff, ← forall_placements_iff (P := fun earlier part =>
    part.operator.arity ≤ arguments.length - arities earlier)]
  simp only [share, List.length_take, List.length_drop, Nat.le_min, Nat.le_refl, true_and]

end Placement

end FinderQuery
