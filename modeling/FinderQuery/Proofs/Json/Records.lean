import FinderQuery.Encoding.Arguments
import FinderQuery.Table
import FinderQuery.Proofs.Earlier

namespace FinderQuery.Json

theorem mapM_eq_some_iff {α β : Type} {f : α → Option β} {items : List α} {results : List β} :
    items.mapM f = some results ↔
      List.Forall₂ (fun item result => f item = some result) items results := by
  induction items generalizing results with
  | nil => simp [eq_comm]
  | cons item items ih =>
    simp only [List.mapM_cons, Option.bind_eq_bind, Option.pure_def, Option.bind_eq_some_iff,
      Option.some.injEq, ih, List.forall₂_cons_left_iff]
    constructor
    · rintro ⟨result, head, others, tail, rfl⟩
      exact ⟨result, others, head, tail, rfl⟩
    · rintro ⟨result, others, head, tail, rfl⟩
      exact ⟨result, head, others, tail, rfl⟩

inductive SpellsList {α : Type} (spells : (levels : Nat) → α → Json → Prop) :
    (levels : Nat) → List α → Json → Prop
  | items {levels : Nat} {values : List α} {trees : List Json}
      (each : List.Forall₂ (spells levels) values trees) :
      SpellsList spells (levels + 1) values (.array trees)

section

variable {α : Type} {spells : Nat → α → Json → Prop} {read : Nat → Json → Option α}
  {levels : Nat} {values : List α} {json : Json}

theorem SpellsList.asList?
    (reads : ∀ levels value json, spells levels value json → read levels json = some value)
    (spelled : SpellsList spells levels values json) :
    Json.asList? levels read json = some values := by
  cases spelled with
  | items each =>
    rw [Json.asList?, enter?]
    exact mapM_eq_some_iff.mpr (each.flip.imp fun _ _ => reads _ _ _)

end

/-- A field of a record with the trees that spell its value. It may be left out if its value is the
default. -/
structure FieldSpelling where
  name : String
  spells : Json → Prop
  isDefault : Prop

namespace FieldSpelling

def required (name : String) (spells : Json → Prop) : FieldSpelling := ⟨name, spells, False⟩

inductive Admits (field : FieldSpelling) : Option Json → Prop
  | given {json : Json} (spelled : field.spells json) : field.Admits (some json)
  | leftOut (default : field.isDefault) : field.Admits none

variable {α : Type} {name : String} {spells : Json → Prop} {isDefault : Prop}
  {read : Json → Option α} {value default : α} {given : Option Json}

theorem Admits.required (admitted : (required name spells).Admits given)
    (reads : ∀ json, spells json → read json = some value) :
    Decoding.required read given = some value := by
  cases admitted with
  | given spelled => exact reads _ spelled
  | leftOut none => exact none.elim

theorem Admits.withDefault (admitted : FieldSpelling.Admits ⟨name, spells, isDefault⟩ given)
    (reads : ∀ json, spells json → read json = some value) (leftOut : isDefault → value = default) :
    Decoding.withDefault default read given = some value := by
  cases admitted with
  | given spelled => exact reads _ spelled
  | leftOut none => rw [leftOut none, Decoding.withDefault]

end FieldSpelling

def givenMembers (names : List String) (values : List (Option Json)) : List (String × Json) :=
  (names.zip values).filterMap fun (name, value) => value.map (name, ·)

/-- The trees that spell a record with these fields, read with so many levels left: an object that
gives its fields in any order, among any members with other names, or an array that gives the first
fields. -/
inductive SpellsRecord (fields : (levels : Nat) → List FieldSpelling) :
    (levels : Nat) → Json → Prop
  | members {levels : Nat} {members : List (String × Json)} (values : List (Option Json))
      (strangers : List (String × Json))
      (admitted : List.Forall₂ FieldSpelling.Admits (fields levels) values)
      (apart : ∀ stranger ∈ strangers, stranger.1 ∉ (fields levels).map (·.name))
      (sound : ∀ stranger ∈ strangers, stranger.2.isSound levels)
      (shuffled : members.Perm (givenMembers ((fields levels).map (·.name)) values ++ strangers)) :
      SpellsRecord fields (levels + 1) (.record members)
  | positions {levels : Nat} {items : List Json} (missing : Nat)
      (admitted : List.Forall₂ FieldSpelling.Admits (fields levels)
        (items.map some ++ List.replicate missing none)) :
      SpellsRecord fields (levels + 1) (.array items)

theorem namedMembers?_record (members : List (String × Json)) :
    namedMembers? (members.map fun (name, value) => (some name, value)) = some members := by
  rw [namedMembers?, mapM_eq_some_iff, List.forall₂_map_left_iff]
  exact List.forall₂_same.mpr fun _ _ => rfl

theorem lookup_eq_head?_filter (name : String) (members : List (String × Json)) :
    members.lookup name = (members.filter (·.1 = name)).head?.map (·.2) := by
  induction members with
  | nil => rfl
  | cons member members ih =>
    rw [Table.lookup_cons_eq_ite, List.filter_cons]
    by_cases same : member.1 = name
    · simp [same]
    · rw [if_neg (Ne.symm same), if_neg (by simpa using same), ih]

theorem fst_mem_of_mem_givenMembers {names : List String} {values : List (Option Json)}
    {member : String × Json} (found : member ∈ givenMembers names values) : member.1 ∈ names := by
  obtain ⟨⟨name, value⟩, paired, mapped⟩ := List.mem_filterMap.mp found
  obtain ⟨json, -, rfl⟩ := Option.map_eq_some_iff.mp mapped
  exact (List.of_mem_zip paired).1

theorem filter_givenMembers {names : List String} (distinct : names.Nodup)
    {values : List (Option Json)} {name : String} {value : Option Json}
    (paired : (name, value) ∈ names.zip values) :
    (givenMembers names values).filter (·.1 = name) = (value.map (name, ·)).toList := by
  induction names generalizing values with
  | nil => simp at paired
  | cons first names ih =>
    cases values with
    | nil => simp at paired
    | cons head values =>
      rw [List.nodup_cons] at distinct
      -- Names differ, so what is given for the first name and for the others does not mix.
      have shape : givenMembers (first :: names) (head :: values) =
          (head.map (first, ·)).toList ++ givenMembers names values := by
        cases head <;> rfl
      rw [shape, List.filter_append]
      rw [List.zip_cons_cons, List.mem_cons] at paired
      rcases paired with here | later
      · obtain ⟨rfl, rfl⟩ := Prod.mk.inj here
        have others : (givenMembers names values).filter (·.1 = name) = [] := by
          rw [List.filter_eq_nil_iff]
          intro member found same
          have listed := fst_mem_of_mem_givenMembers found
          exact distinct.1 (of_decide_eq_true same ▸ listed)
        rw [others, List.append_nil]
        cases value <;> simp
      · have other : first ≠ name := by
          rintro rfl
          exact distinct.1 (List.of_mem_zip later).1
        rw [ih distinct.2 later]
        cases head <;> simp [other]

theorem filter_of_shuffled {names : List String} (distinct : names.Nodup)
    {values : List (Option Json)} {strangers members : List (String × Json)}
    (apart : ∀ stranger ∈ strangers, stranger.1 ∉ names)
    (shuffled : members.Perm (givenMembers names values ++ strangers)) {name : String}
    {value : Option Json} (paired : (name, value) ∈ names.zip values) :
    members.filter (·.1 = name) = (value.map (name, ·)).toList := by
  have none : strangers.filter (·.1 = name) = [] := by
    rw [List.filter_eq_nil_iff]
    intro stranger found same
    exact apart stranger found (of_decide_eq_true same ▸ (List.of_mem_zip paired).1)
  have perm := shuffled.filter (·.1 = name)
  rw [List.filter_append, none, List.append_nil, filter_givenMembers distinct paired] at perm
  cases value with
  | none => exact List.perm_nil.mp perm
  | some json => exact List.perm_singleton.mp perm

theorem fields?_record {names : List String} {values : List (Option Json)}
    {members : List (String × Json)}
    (each : List.Forall₂ (fun name value =>
      members.filter (·.1 = name) = (value.map (name, ·)).toList) names values) :
    fields? names (.record members) = some values := by
  have once : (names.all fun name => (members.filter (·.1 = name)).length ≤ 1) = true := by
    simp only [List.all_eq_true, decide_eq_true_eq]
    intro name listed
    obtain ⟨value, -, same⟩ := exists_of_mem_right each.flip listed
    rw [same]
    cases value <;> simp
  have lookups : names.map (members.lookup ·) = values := by
    rw [← List.map_id values]
    refine map_eq_of_forall₂ (each.imp fun name value same => ?_)
    rw [lookup_eq_head?_filter, same]
    cases value <;> rfl
  rw [record, fields?, namedMembers?_record]
  simp only [Option.bind_eq_bind, Option.bind_some, once, if_true, lookups]

theorem fields?_array {names : List String} {items : List Json} {missing : Nat}
    (sameLength : names.length = items.length + missing) :
    fields? names (.array items) = some (items.map some ++ List.replicate missing none) := by
  have within : items.length ≤ names.length := by omega
  have rest : names.length - items.length = missing := by omega
  rw [fields?, if_pos within, rest]

variable {fields : Nat → List FieldSpelling} {levels : Nat} {json : Json}

theorem SpellsRecord.exists_fields? (spelled : SpellsRecord fields levels json)
    (distinct : ∀ levels, ((fields levels).map (·.name)).Nodup) :
    ∃ inner values, enter? levels = some inner ∧
      Json.fields? ((fields inner).map (·.name)) json = some values ∧
      List.Forall₂ FieldSpelling.Admits (fields inner) values := by
  cases spelled with
  | @members levels members values strangers admitted apart sound shuffled =>
    refine ⟨levels, values, rfl, fields?_record (List.forall₂_iff_zip.mpr ⟨?_, ?_⟩), admitted⟩
    · rw [List.length_map, admitted.length_eq]
    · exact fun paired => filter_of_shuffled (distinct levels) apart shuffled paired
  | @positions levels items missing admitted =>
    refine ⟨levels, _, rfl, fields?_array ?_, admitted⟩
    have sameLength := admitted.length_eq
    simp only [List.length_append, List.length_map, List.length_replicate] at sameLength ⊢
    exact sameLength

theorem fields?_eq_none_of_repeated {names : List String} {members : List (Text × Json)}
    {name : String} (known : name ∈ names)
    (repeated : 2 ≤ (members.filter (·.1 = some name)).length) :
    Json.fields? names (.object members) = none := by
  rw [Json.fields?]
  cases named : namedMembers? members with
  | none => rfl
  | some found =>
    have same : (members.filter (·.1 = some name)).length =
        (found.filter (·.1 = name)).length := by
      have each := mapM_eq_some_iff.mp named
      have lengths := congrArg List.length (map_filter_eq_of_forall₂ (γ := Unit)
        (p := (·.1 = some name)) (q := (·.1 = name)) (f := fun _ => ()) (g := fun _ => ())
        (each.imp fun member entry mapped => ?_))
      · simpa using lengths
      · obtain ⟨key, present, rfl⟩ := Option.map_eq_some_iff.mp mapped
        simp [present]
    have twice : ¬ (names.all fun name => (found.filter (·.1 = name)).length ≤ 1) = true := by
      rw [List.all_eq_true]
      intro all
      have once := of_decide_eq_true (all name known)
      omega
    simp only [Option.bind_eq_bind, Option.bind_some, if_neg twice]

theorem SpellsRecord.record (fields : Nat → List FieldSpelling) {trees : List Json}
    (each : List.Forall₂ (fun field tree => field.spells tree) (fields levels) trees) :
    SpellsRecord fields (levels + 1) (.record (((fields levels).map (·.name)).zip trees)) := by
  have admitted : List.Forall₂ FieldSpelling.Admits (fields levels) (trees.map some) := by
    rw [List.forall₂_map_right_iff]
    exact each.imp fun _ _ => .given
  have given : givenMembers ((fields levels).map (·.name)) (trees.map some) =
      ((fields levels).map (·.name)).zip trees := by
    rw [givenMembers, List.zip_map_right, List.filterMap_map]
    exact List.filterMap_some
  refine .members _ [] admitted nofun nofun ?_
  rw [given, List.append_nil]

theorem SpellsRecord.isSound (spelled : SpellsRecord fields levels json)
    (each : ∀ levels, ∀ field ∈ fields levels, ∀ tree, field.spells tree →
      tree.isSound levels) : json.isSound levels := by
  have given : ∀ levels values, List.Forall₂ FieldSpelling.Admits (fields levels) values →
      ∀ tree, some tree ∈ values → tree.isSound levels := by
    intro levels values admitted tree listed
    obtain ⟨field, known, admits⟩ := exists_of_mem_right admitted listed
    cases admits with
    | given spelled => exact each levels field known tree spelled
  cases spelled with
  | @members levels members values strangers admitted apart sound shuffled =>
    rw [Json.record, Json.isSound, List.all_map, List.all_eq_true]
    rintro ⟨name, tree⟩ listed
    rw [shuffled.mem_iff, List.mem_append] at listed
    rcases listed with known | stranger
    · obtain ⟨⟨_, value⟩, paired, mapped⟩ := List.mem_filterMap.mp known
      obtain ⟨_, rfl, same⟩ := Option.map_eq_some_iff.mp mapped
      cases same
      exact given levels values admitted tree (List.of_mem_zip paired).2
    · exact sound _ stranger
  | positions _ admitted =>
    rw [Json.isSound, List.all_eq_true]
    intro tree listed
    exact given _ _ admitted tree (by simp [listed])

end FinderQuery.Json
