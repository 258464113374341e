import Mathlib.Data.List.Forall2

namespace FinderQuery

variable {α β ε : Type}

/-- The elements of a list that goes on from `earlier`, each with all that come before it. -/
def withEarlier (earlier : List α) : List α → List (List α × α)
  | [] => []
  | item :: rest => (earlier, item) :: withEarlier (earlier ++ [item]) rest

theorem withEarlier_append (earlier front back : List α) :
    withEarlier earlier (front ++ back) =
      withEarlier earlier front ++ withEarlier (earlier ++ front) back := by
  induction front generalizing earlier with
  | nil => simp [withEarlier]
  | cons item front ih => simp [withEarlier, ih]

theorem withEarlier_behind (front earlier items : List α) :
    withEarlier (front ++ earlier) items =
      (withEarlier earlier items).map fun (before, item) => (front ++ before, item) := by
  induction items generalizing earlier with
  | nil => rfl
  | cons item rest ih => rw [withEarlier, List.append_assoc, ih, withEarlier, List.map_cons]

theorem mem_withEarlier {earlier items before : List α} {item : α} :
    (before, item) ∈ withEarlier earlier items ↔
      ∃ front back, items = front ++ item :: back ∧ before = earlier ++ front := by
  induction items generalizing earlier with
  | nil => simp [withEarlier]
  | cons head rest ih =>
    simp only [withEarlier, List.mem_cons, Prod.mk.injEq, ih]
    apply Iff.intro
    · intro given
      rcases given with ⟨rfl, rfl⟩ | ⟨front, back, rfl, rfl⟩
      · exact ⟨[], rest, by simp⟩
      · exact ⟨head :: front, back, by simp⟩
    · intro given
      rcases given with ⟨front, back, split, rfl⟩
      cases front with
      | nil =>
        obtain ⟨rfl, rfl⟩ := List.cons.inj split
        exact Or.inl ⟨by simp, rfl⟩
      | cons first front =>
        obtain ⟨rfl, rfl⟩ := List.cons.inj split
        exact Or.inr ⟨front, back, rfl, by simp⟩

theorem map_snd_withEarlier (earlier items : List α) :
    (withEarlier earlier items).map Prod.snd = items := by
  induction items generalizing earlier with
  | nil => rfl
  | cons item rest ih => simp [withEarlier, ih]

theorem mem_of_mem_withEarlier {earlier items : List α} {entry : List α × α}
    (listed : entry ∈ withEarlier earlier items) : entry.2 ∈ items := by
  rw [← map_snd_withEarlier earlier items]
  exact List.mem_map_of_mem listed

theorem exists_mem_withEarlier (earlier : List α) {items : List α} {item : α}
    (member : item ∈ items) : ∃ before, (before, item) ∈ withEarlier earlier items := by
  rw [← map_snd_withEarlier earlier items] at member
  obtain ⟨entry, listed, rfl⟩ := List.mem_map.mp member
  exact ⟨entry.1, listed⟩

theorem bind_eq_ok_iff {first : Except ε α} {next : α → Except ε β} {result : β} :
    (first >>= next) = .ok result ↔ ∃ value, first = .ok value ∧ next value = .ok result := by
  cases first with
  | error error => simp [bind, Except.bind]
  | ok value => simp [bind, Except.bind]

theorem guarded_eq_ok_iff {first : Except ε α} {P : Prop} [Decidable P] {error : ε} {result : α} :
    (first >>= fun value => if P then .error error else .ok value) = .ok result ↔
      first = .ok result ∧ ¬ P := by
  rw [bind_eq_ok_iff]
  by_cases holds : P <;> simp [holds]

theorem map_eq_ok_iff {first : Except ε α} {f : α → β} {result : β} :
    first.map f = .ok result ↔ ∃ value, first = .ok value ∧ result = f value := by
  cases first with
  | error error => simp [Except.map]
  | ok value => simp [Except.map, eq_comm]

theorem map_eq_error_iff {first : Except ε α} {f : α → β} {error : ε} :
    first.map f = .error error ↔ first = .error error := by
  cases first with
  | error error => simp [Except.map]
  | ok value => simp [Except.map]

theorem mapM_eq_ok_iff {f : α → Except ε β} {items : List α} {results : List β} :
    items.mapM f = .ok results ↔
      List.Forall₂ (fun item result => f item = .ok result) items results := by
  induction items generalizing results with
  | nil => simp [pure, Except.pure, eq_comm]
  | cons item rest ih =>
    simp only [List.mapM_cons, bind_eq_ok_iff, ih, pure, Except.pure, Except.ok.injEq,
      List.forall₂_cons_left_iff]
    apply Iff.intro
    · intro given
      rcases given with ⟨result, found, others, run, rfl⟩
      exact ⟨result, others, found, run, rfl⟩
    · intro given
      rcases given with ⟨result, others, found, run, rfl⟩
      exact ⟨result, found, others, run, rfl⟩

theorem exists_mapM_eq_ok_iff {f : α → Except ε β} {items : List α} :
    (∃ results, items.mapM f = .ok results) ↔ ∀ item ∈ items, ∃ result, f item = .ok result := by
  simp only [mapM_eq_ok_iff]
  induction items with
  | nil => simp
  | cons item rest ih =>
    simp only [List.forall₂_cons_left_iff, List.forall_mem_cons, ← ih]
    apply Iff.intro
    · intro given
      rcases given with ⟨_, result, results, found, run, rfl⟩
      exact ⟨⟨result, found⟩, results, run⟩
    · intro given
      rcases given with ⟨⟨result, found⟩, results, run⟩
      exact ⟨_, result, results, found, run, rfl⟩

theorem mapM_eq_map_of_eq_map {γ : Type} {f : α → Except ε β} {f' : α → Except ε γ} {g : β → γ}
    {items : List α} (each : ∀ item ∈ items, f' item = (f item).map g) :
    items.mapM f' = (items.mapM f).map (List.map g) := by
  induction items with
  | nil => rfl
  | cons item rest ih =>
    rw [List.forall_mem_cons] at each
    rw [List.mapM_cons, List.mapM_cons, each.1, ih each.2]
    cases f item with
    | error error => rfl
    | ok result => cases rest.mapM f <;> rfl

theorem mapM_eq_error {f : α → Except ε β} {error : ε} {items : List α}
    (some : ∃ item ∈ items, f item = .error error)
    (each : ∀ item ∈ items, (∃ result, f item = .ok result) ∨ f item = .error error) :
    items.mapM f = .error error := by
  induction items with
  | nil => simp at some
  | cons item rest ih =>
    rw [List.exists_mem_cons_iff] at some
    rw [List.forall_mem_cons] at each
    rw [List.mapM_cons]
    rcases each.1 with ⟨result, found⟩ | failed
    · rcases some with failed | later
      · rw [found] at failed
        cases failed
      · rw [found, ih later each.2]
        rfl
    · rw [failed]
      rfl

theorem mapM_eq_error_of_front {f : α → Except ε β} {front back : List α} {item : α} {error : ε}
    (before : ∃ results, front.mapM f = .ok results) (fails : f item = .error error) :
    (front ++ item :: back).mapM f = .error error := by
  obtain ⟨results, run⟩ := before
  rw [List.mapM_append, List.mapM_cons, run, fails]
  rfl

theorem mapM_eq_error_iff {f : α → Except ε β} {items : List α} {error : ε} :
    items.mapM f = .error error ↔
      ∃ front item back, items = front ++ item :: back ∧
        (∀ earlier ∈ front, ∃ result, f earlier = .ok result) ∧ f item = .error error := by
  constructor
  · intro failed
    induction items with
    | nil => cases failed
    | cons head rest ih =>
      rw [List.mapM_cons] at failed
      cases found : f head with
      | error other =>
        rw [found] at failed
        cases failed
        exact ⟨[], head, rest, rfl, nofun, found⟩
      | ok result =>
        cases others : rest.mapM f with
        | ok results =>
          rw [found, others] at failed
          cases failed
        | error other =>
          rw [found, others] at failed
          cases failed
          obtain ⟨front, item, back, split, before, fails⟩ := ih others
          refine ⟨head :: front, item, back, by rw [split, List.cons_append], ?_, fails⟩
          exact List.forall_mem_cons.mpr ⟨⟨result, found⟩, before⟩
  · rintro ⟨front, item, back, rfl, before, fails⟩
    exact mapM_eq_error_of_front (exists_mapM_eq_ok_iff.mpr before) fails

theorem exists_of_mem_right {R : α → β → Prop} {items : List α} {results : List β}
    (related : List.Forall₂ R items results) {result : β} (member : result ∈ results) :
    ∃ item ∈ items, R item result := by
  induction related with
  | nil => cases member
  | cons head _ ih =>
    rcases List.mem_cons.mp member with rfl | later
    · exact ⟨_, List.mem_cons_self, head⟩
    · obtain ⟨item, listed, found⟩ := ih later
      exact ⟨item, List.mem_cons_of_mem _ listed, found⟩

theorem forall₂_iff_eq_map {R : α → β → Prop} {f : α → β} {items : List α}
    (each : ∀ item ∈ items, ∀ other, R item other ↔ other = f item) {others : List β} :
    List.Forall₂ R items others ↔ others = items.map f := by
  induction items generalizing others with
  | nil => simp
  | cons item items ih =>
    rw [List.forall_mem_cons] at each
    simp [List.forall₂_cons_left_iff, each.1, ih each.2]

theorem map_eq_of_forall₂ {γ : Type} {f : α → γ} {g : β → γ} {items : List α} {results : List β}
    (related : List.Forall₂ (fun item result => f item = g result) items results) :
    items.map f = results.map g := by
  induction related with
  | nil => rfl
  | cons same _ ih => rw [List.map_cons, List.map_cons, same, ih]

theorem map_filter_eq_of_forall₂ {γ : Type} {p : α → Bool} {q : β → Bool} {f : α → γ} {g : β → γ}
    {items : List α} {results : List β}
    (related : List.Forall₂ (fun item result => p item = q result ∧ f item = g result)
      items results) :
    (items.filter p).map f = (results.filter q).map g := by
  induction related with
  | nil => rfl
  | cons same _ ih =>
    rw [List.filter_cons, List.filter_cons, same.1]
    split
    · rw [List.map_cons, List.map_cons, same.2, ih]
    · exact ih

theorem exists_iff_of_forall₂ {P : α → Prop} {Q : β → Prop} {items : List α} {results : List β}
    (related : List.Forall₂ (fun item result => P item ↔ Q result) items results) :
    (∃ item ∈ items, P item) ↔ ∃ result ∈ results, Q result := by
  induction related with
  | nil => simp
  | cons same _ ih => simp only [List.exists_mem_cons_iff, same, ih]

def AgreesUnless (P : ε → Prop) (first second : Except ε α) : Prop :=
  second = first ∨ ∃ error, first = .error error ∧ P error

namespace AgreesUnless

variable {P : ε → Prop} {first second : Except ε α}

theorem refl (result : Except ε α) : AgreesUnless P result result := Or.inl rfl

theorem eq_of_settled (agrees : AgreesUnless P first second)
    (settled : ∀ error, first = .error error → ¬ P error) : second = first := by
  rcases agrees with same | ⟨error, failed, kind⟩
  · exact same
  · exact absurd kind (settled error failed)

theorem bind {next other : α → Except ε β} (agrees : AgreesUnless P first second)
    (each : ∀ value, AgreesUnless P (next value) (other value)) :
    AgreesUnless P (first >>= next) (second >>= other) := by
  rcases agrees with rfl | ⟨error, rfl, kind⟩
  · cases second with
    | error error => exact refl _
    | ok value => exact each value
  · exact Or.inr ⟨error, rfl, kind⟩

theorem map (f : α → β) (agrees : AgreesUnless P first second) :
    AgreesUnless P (first.map f) (second.map f) := by
  rcases agrees with rfl | ⟨error, rfl, kind⟩
  · exact refl _
  · exact Or.inr ⟨error, rfl, kind⟩

theorem mapM {f g : α → Except ε β} {items : List α}
    (each : ∀ item ∈ items, AgreesUnless P (f item) (g item)) :
    AgreesUnless P (items.mapM f) (items.mapM g) := by
  induction items with
  | nil => exact refl _
  | cons item rest ih =>
    rw [List.forall_mem_cons] at each
    rw [List.mapM_cons, List.mapM_cons]
    exact each.1.bind fun _ => (ih each.2).bind fun _ => refl _

end AgreesUnless

def FailsOnly (P : ε → Prop) (result : Except ε α) : Prop :=
  ∀ error, result = .error error → P error

namespace FailsOnly

variable {P : ε → Prop}

theorem ok (value : α) : FailsOnly P (.ok value : Except ε α) := nofun

theorem error {error : ε} (kind : P error) : FailsOnly P (.error error : Except ε α) := by
  intro other failed
  cases failed
  exact kind

theorem bind {first : Except ε α} {next : α → Except ε β} (before : FailsOnly P first)
    (each : ∀ value, first = .ok value → FailsOnly P (next value)) :
    FailsOnly P (first >>= next) := by
  cases first with
  | error failure => exact error (before failure rfl)
  | ok value => exact each value rfl

theorem guarded {first : Except ε α} {condition : Prop} [Decidable condition] {failure : ε}
    (before : FailsOnly P first) (kind : P failure) :
    FailsOnly P (first >>= fun value => if condition then .error failure else .ok value) := by
  refine before.bind fun value _ => ?_
  split
  · exact error kind
  · exact ok value

theorem map {first : Except ε α} (f : α → β) (before : FailsOnly P first) :
    FailsOnly P (f <$> first) := by
  cases first with
  | error failure => exact error (before failure rfl)
  | ok value => exact ok _

theorem mapM {f : α → Except ε β} {items : List α} (each : ∀ item ∈ items, FailsOnly P (f item)) :
    FailsOnly P (items.mapM f) := by
  induction items with
  | nil => exact ok _
  | cons item rest ih =>
    rw [List.forall_mem_cons] at each
    rw [List.mapM_cons]
    exact each.1.bind fun _ _ => (ih each.2).bind fun _ _ => ok _

end FailsOnly

end FinderQuery
