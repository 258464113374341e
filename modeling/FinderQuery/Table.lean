namespace FinderQuery

structure Table (α : Type) where
  entries : List (String × α)
  sorted : entries.Pairwise (·.1 < ·.1)
  deriving DecidableEq

namespace Table

variable {α : Type}

def empty : Table α := ⟨[], .nil⟩

instance : EmptyCollection (Table α) := ⟨empty⟩

def get? (table : Table α) (name : String) : Option α := table.entries.lookup name

def contains (table : Table α) (name : String) : Bool := (table.get? name).isSome

def names (table : Table α) : List String := table.entries.map (·.1)

def size (table : Table α) : Nat := table.entries.length

def insertEntry (name : String) (value : α) : List (String × α) → List (String × α)
  | [] => [(name, value)]
  | entry :: rest =>
    if name < entry.1 then (name, value) :: entry :: rest
    else if entry.1 < name then entry :: insertEntry name value rest
    else (name, value) :: rest

theorem mem_insertEntry {name : String} {value : α} {entry : String × α}
    {entries : List (String × α)} (member : entry ∈ insertEntry name value entries) :
    entry = (name, value) ∨ entry ∈ entries := by
  induction entries with
  | nil => simpa [insertEntry] using member
  | cons head rest ih =>
    simp only [insertEntry] at member
    split at member
    · simpa using member
    · split at member
      · rcases List.mem_cons.mp member with rfl | member
        · simp
        · rcases ih member with rfl | member <;> simp [*]
      · rcases List.mem_cons.mp member with rfl | member <;> simp [*]

theorem eq_of_not_lt {a b : String} (hab : ¬ a < b) (hba : ¬ b < a) : a = b :=
  String.le_antisymm (String.not_lt.mp hba) (String.not_lt.mp hab)

theorem sorted_insertEntry (name : String) (value : α) {entries : List (String × α)}
    (sorted : entries.Pairwise (·.1 < ·.1)) :
    (insertEntry name value entries).Pairwise (·.1 < ·.1) := by
  induction entries with
  | nil => simp [insertEntry]
  | cons head rest ih =>
    have later := (List.pairwise_cons.mp sorted).1
    have tail := (List.pairwise_cons.mp sorted).2
    simp only [insertEntry]
    split
    next before =>
      refine List.pairwise_cons.mpr ⟨fun entry member => ?_, sorted⟩
      rcases List.mem_cons.mp member with rfl | member
      · exact before
      · exact String.lt_trans before (later _ member)
    next notBefore =>
      split
      next behind =>
        refine List.pairwise_cons.mpr ⟨fun entry member => ?_, ih tail⟩
        rcases mem_insertEntry member with rfl | member
        · exact behind
        · exact later _ member
      next notBehind =>
        have same := eq_of_not_lt notBefore notBehind
        exact List.pairwise_cons.mpr ⟨fun entry member => same ▸ later _ member, tail⟩

def insert (table : Table α) (name : String) (value : α) : Table α :=
  ⟨insertEntry name value table.entries, sorted_insertEntry name value table.sorted⟩

/-- The last of several entries with one name wins. -/
def ofList (entries : List (String × α)) : Table α :=
  entries.foldl (fun table entry => table.insert entry.1 entry.2) empty

theorem lookup_cons_eq_ite (key : String) (entry : String × α) (rest : List (String × α)) :
    (entry :: rest).lookup key = if key = entry.1 then some entry.2 else rest.lookup key := by
  obtain ⟨name, value⟩ := entry
  by_cases same : key = name
  · simp [same]
  · have unequal : (key == name) = false := by simpa using same
    simp [List.lookup_cons, same, unequal]

theorem lookup_insertEntry (name key : String) (value : α) {entries : List (String × α)}
    (sorted : entries.Pairwise (·.1 < ·.1)) :
    (insertEntry name value entries).lookup key =
      if key = name then some value else entries.lookup key := by
  induction entries with
  | nil => simp [insertEntry, lookup_cons_eq_ite]
  | cons head rest ih =>
    have tail := (List.pairwise_cons.mp sorted).2
    simp only [insertEntry]
    split
    · simp [lookup_cons_eq_ite]
    next notBefore =>
      split
      next behind =>
        have apart : name ≠ head.1 := fun h => String.lt_irrefl _ (h ▸ behind)
        simp only [lookup_cons_eq_ite, ih tail]
        by_cases same : key = name
        · simp [same, apart]
        · simp [same]
      next notBehind =>
        have same := eq_of_not_lt notBefore notBehind
        by_cases hit : key = name <;> simp [lookup_cons_eq_ite, hit, ← same]

@[simp] theorem get?_insert (table : Table α) (name key : String) (value : α) :
    (table.insert name value).get? key = if key = name then some value else table.get? key :=
  lookup_insertEntry name key value table.sorted

@[simp] theorem get?_empty (name : String) : (∅ : Table α).get? name = none := rfl

theorem names_sorted (table : Table α) : table.names.Pairwise (· < ·) :=
  List.pairwise_map.mpr table.sorted

theorem lookup_eq_none_of_lt {key : String} {entries : List (String × α)}
    (before : ∀ entry ∈ entries, key < entry.1) : entries.lookup key = none := by
  induction entries with
  | nil => rfl
  | cons head rest ih =>
    have apart : key ≠ head.1 := fun same => String.lt_irrefl key (same ▸ before head (by simp))
    rw [lookup_cons_eq_ite, if_neg apart]
    exact ih fun entry member => before entry (List.mem_cons_of_mem _ member)

theorem not_lt_of_lookup_eq {entry other : String × α} {rest others : List (String × α)}
    (sorted : (other :: others).Pairwise (·.1 < ·.1))
    (same : (entry :: rest).lookup entry.1 = (other :: others).lookup entry.1) :
    ¬ entry.1 < other.1 := by
  intro before
  have absent : (other :: others).lookup entry.1 = none := by
    refine lookup_eq_none_of_lt fun next member => ?_
    rcases List.mem_cons.mp member with rfl | member
    · exact before
    · exact String.lt_trans before ((List.pairwise_cons.mp sorted).1 next member)
  rw [← same, lookup_cons_eq_ite, if_pos rfl] at absent
  cases absent

theorem eq_of_lookup_eq {first second : List (String × α)}
    (firstSorted : first.Pairwise (·.1 < ·.1)) (secondSorted : second.Pairwise (·.1 < ·.1))
    (same : ∀ key, first.lookup key = second.lookup key) : first = second := by
  induction first generalizing second with
  | nil =>
    cases second with
    | nil => rfl
    | cons entry rest => simpa [lookup_cons_eq_ite] using same entry.1
  | cons entry rest ih =>
    cases second with
    | nil => simpa [lookup_cons_eq_ite] using same entry.1
    | cons other others =>
      have name : entry.1 = other.1 :=
        eq_of_not_lt (not_lt_of_lookup_eq secondSorted (same entry.1))
          (not_lt_of_lookup_eq firstSorted (same other.1).symm)
      have value := same entry.1
      rw [lookup_cons_eq_ite, lookup_cons_eq_ite, if_pos rfl, if_pos name] at value
      rw [List.pairwise_cons] at firstSorted secondSorted
      have tails : rest = others := by
        refine ih firstSorted.2 secondSorted.2 fun key => ?_
        by_cases hit : key = entry.1
        · rw [hit, lookup_eq_none_of_lt firstSorted.1, name, lookup_eq_none_of_lt secondSorted.1]
        · have here := same key
          rwa [lookup_cons_eq_ite, lookup_cons_eq_ite, if_neg hit, if_neg (name ▸ hit)] at here
      rw [tails, Prod.ext name (Option.some.inj value)]

theorem eq_of_get?_eq {first second : Table α} (same : ∀ name, first.get? name = second.get? name) :
    first = second := by
  obtain ⟨entries, sorted⟩ := first
  obtain ⟨others, otherSorted⟩ := second
  cases eq_of_lookup_eq sorted otherSorted same
  rfl

theorem mem_names_iff {table : Table α} {name : String} :
    name ∈ table.names ↔ (table.get? name).isSome := by
  rw [names, get?]
  generalize table.entries = entries
  induction entries with
  | nil => simp
  | cons head rest ih =>
    rw [List.map_cons, List.mem_cons, ih, lookup_cons_eq_ite]
    by_cases hit : name = head.1 <;> simp [hit]

end Table

end FinderQuery
