import FinderQuery.Cli.Run
import FinderQuery.Proofs.Encoding.Trees

namespace FinderQuery

namespace Table

variable {α : Type}

theorem insert_insert (table : Table α) (name : String) (first second : α) :
    (table.insert name first).insert name second = table.insert name second := by
  apply eq_of_get?_eq
  intro key
  by_cases hit : key = name <;> simp [hit]

theorem get?_foldl_insert {entries : List (String × α)} (sorted : entries.Pairwise (·.1 < ·.1))
    (table : Table α) (key : String) :
    (entries.foldl (fun table entry => table.insert entry.1 entry.2) table).get? key =
      (entries.lookup key).or (table.get? key) := by
  induction entries generalizing table with
  | nil => rfl
  | cons head rest ih =>
    have later := List.pairwise_cons.mp sorted
    rw [List.foldl_cons, ih later.2, get?_insert, lookup_cons_eq_ite]
    by_cases hit : key = head.1
    · subst hit
      simp [lookup_eq_none_of_lt later.1]
    · simp [hit]

theorem ofList_entries (table : Table α) : ofList table.entries = table := by
  apply eq_of_get?_eq
  intro key
  rw [ofList, get?_foldl_insert table.sorted]
  exact Option.or_none

end Table

namespace Catalog

theorem registerProperty_insert (entities : Table Entity) (name path : String) (entity : Entity)
    (declared : Property) :
    registerProperty ⟨entities.insert name entity⟩ name path declared =
      ⟨entities.insert name
        { entity with properties := entity.properties.insert path declared }⟩ := by
  simp only [registerProperty, Table.get?_insert, if_true, Option.getD_some, Table.insert_insert]

theorem foldl_registerProperty (entities : Table Entity) (name collection : String)
    (properties : Table Property) (entries : List (String × Property)) :
    entries.foldl (fun catalog entry => catalog.registerProperty name entry.1 entry.2)
        (Catalog.mk (entities.insert name ⟨collection, properties⟩)) =
      ⟨entities.insert name
        ⟨collection,
          entries.foldl (fun table entry => table.insert entry.1 entry.2) properties⟩⟩ := by
  induction entries generalizing properties with
  | nil => rfl
  | cons entry rest ih => rw [List.foldl_cons, registerProperty_insert, ih, List.foldl_cons]

theorem registerWith_of_absent {catalog : Catalog} {name : String}
    (absent : catalog.entities.get? name = none) (entity : Entity) :
    catalog.registerWith name entity = ⟨catalog.entities.insert name entity⟩ := by
  unfold registerWith registerEntity
  simp only [absent]
  rw [foldl_registerProperty]
  have content : entity.properties.entries.foldl
      (fun table entry => table.insert entry.1 entry.2) ∅ = entity.properties :=
    Table.ofList_entries entity.properties
  rw [content]

theorem foldl_registerWith {entries : List (String × Entity)}
    (sorted : entries.Pairwise (·.1 < ·.1)) (catalog : Catalog)
    (absent : ∀ entry ∈ entries, catalog.entities.get? entry.1 = none) :
    entries.foldl (fun catalog entry => catalog.registerWith entry.1 entry.2) catalog =
      ⟨entries.foldl (fun table entry => table.insert entry.1 entry.2) catalog.entities⟩ := by
  induction entries generalizing catalog with
  | nil => rfl
  | cons head rest ih =>
    have later := List.pairwise_cons.mp sorted
    rw [List.forall_mem_cons] at absent
    rw [List.foldl_cons, registerWith_of_absent absent.1, ih later.2]
    · rfl
    · intro entry member
      have apart : entry.1 ≠ head.1 := (String.ne_of_lt (later.1 entry member)).symm
      rw [Table.get?_insert, if_neg apart]
      exact absent.2 entry member

end Catalog

/-- Registering leads to the entities as they are configured: no entity and no property takes the
place of another. -/
theorem Config.registered_eq (config : Config) : config.registered = config.catalog := by
  unfold registered
  rw [Catalog.foldl_registerWith config.catalog.entities.sorted]
  · exact congrArg Catalog.mk (Table.ofList_entries config.catalog.entities)
  · intro entry _
    rfl

namespace PropertyPath

theorem toList_display_parse (text : String) :
    (parse text).display.toList =
      List.intercalate ['.'] ((text.toList.splitOn '.').filter (! ·.isEmpty)) := by
  rw [display, String.toList_intercalate, parse, List.map_map]
  simp [Function.comp_def]

/-- A text without dots at its ends and without two in a row. -/
def IsGapless (text : String) : Prop := text = "" ∨ [] ∉ text.toList.splitOn '.'

instance (text : String) : Decidable (IsGapless text) :=
  inferInstanceAs (Decidable (_ ∨ _))

theorem display_parse_eq_iff {text : String} : (parse text).display = text ↔ IsGapless text := by
  have shown := toList_display_parse text
  constructor
  · intro same
    by_cases empty : text = ""
    · exact Or.inl empty
    · right
      intro gap
      rw [same] at shown
      -- The pieces of the text would be those of them that are not empty.
      have pieces : text.toList.splitOn '.' =
          (text.toList.splitOn '.').filter (! ·.isEmpty) := by
        conv_lhs => rw [shown]
        apply List.splitOn_intercalate
        · intro piece listed
          exact not_mem_of_mem_splitOn (List.mem_filter.mp listed).1
        · intro none
          rw [none] at shown
          exact empty (String.toList_eq_nil_iff.mp shown)
      rw [pieces] at gap
      simpa using (List.mem_filter.mp gap).2
  · intro plain
    rcases plain with rfl | filled
    · rfl
    · have all : (text.toList.splitOn '.').filter (! ·.isEmpty) = text.toList.splitOn '.' := by
        apply List.filter_eq_self.mpr
        intro piece listed
        cases piece with
        | nil => exact absurd listed filled
        | cons => rfl
      rw [all, List.intercalate_splitOn] at shown
      exact String.toList_injective shown

end PropertyPath

/-- What a catalog knows of a property is what is declared under a text, if the property is asked
for by that text. -/
def Catalog.Honours (catalog : Catalog) (name text : String) (declared : Catalog.Property) : Prop :=
  catalog.leafProperty name (.parse text) = .ok declared.leaf ∧
    catalog.fieldPath name (.parse text) = .ok (declared.field.getD text)

instance (catalog : Catalog) (name text : String) (declared : Catalog.Property) :
    Decidable (catalog.Honours name text declared) :=
  inferInstanceAs (Decidable (_ ∧ _))

namespace Catalog

variable {catalog : Catalog} {name text : String} {entity : Entity}

theorem property_of_entity (listed : catalog.entities.get? name = some entity)
    (path : PropertyPath) :
    catalog.property name path =
      match entity.properties.get? path.display with
      | some found => .ok found
      | none => .error (.unknownProperty name path.display) := by
  unfold property Catalog.entity
  cases found : entity.properties.get? path.display <;> simp [listed, found]

theorem honours_iff (listed : catalog.entities.get? name = some entity) {declared : Property} :
    catalog.Honours name text declared ↔
      ∃ found, entity.properties.get? (PropertyPath.parse text).display = some found ∧
        found.leaf = declared.leaf ∧
        found.field.getD (PropertyPath.parse text).display = declared.field.getD text := by
  rw [Honours, leafProperty, fieldPath, property_of_entity listed]
  cases entity.properties.get? (PropertyPath.parse text).display with
  | none => simp [Except.map]
  | some found => simp [Except.map]

end Catalog

/-- A declared property is found under its own text, with its type and its field, if the text has no
gaps. A text with gaps is read as the path without them, so the property is then as unknown as that
path is, unless the same is declared for the path. -/
theorem declared_property_found_if_gapless (config : Config) {name text : String}
    {entity : Catalog.Entity} {declared : Catalog.Property}
    (listed : config.catalog.entities.get? name = some entity)
    (known : entity.properties.get? text = some declared) :
    (PropertyPath.IsGapless text → config.registered.Honours name text declared) ∧
    (¬ PropertyPath.IsGapless text →
      (entity.properties.get? (PropertyPath.parse text).display = none →
        config.registered.property name (.parse text) =
          .error (.unknownProperty name (PropertyPath.parse text).display)) ∧
      (config.registered.Honours name text declared ↔
        ∃ other, entity.properties.get? (PropertyPath.parse text).display = some other ∧
          other.leaf = declared.leaf ∧
          other.field.getD (PropertyPath.parse text).display = declared.field.getD text)) := by
  rw [Config.registered_eq]
  constructor
  · intro gapless
    have same := PropertyPath.display_parse_eq_iff.mpr gapless
    rw [Catalog.honours_iff listed, same]
    exact ⟨declared, known, rfl, rfl⟩
  · intro _
    constructor
    · intro absent
      rw [Catalog.property_of_entity listed, absent]
    · exact Catalog.honours_iff listed

namespace Declarations

def placeText : String :=
  "entities.Place = \x7b collection = \"places\", properties = \x7b " ++
    "\"address.city\".type = \"string\", " ++
    "\"address..zip\" = \x7b field = \"zip\", type = \"string\" \x7d \x7d \x7d"

def city : Catalog.Property := ⟨none, { kind := .string }⟩

def zip : Catalog.Property := ⟨some "zip", { kind := .string }⟩

def placeEntity : Catalog.Entity where
  collection := "places"
  properties := .ofList [("address.city", city), ("address..zip", zip)]

def placeConfig : Config where
  catalog := ⟨.ofList [("Place", placeEntity)]⟩

theorem placeText_loads : Cli.readConfig "places.toml" (.text placeText) = .ok placeConfig := by
  decide +kernel

theorem placeEntity_listed : placeConfig.catalog.entities.get? "Place" = some placeEntity := by
  decide +kernel

theorem zip_known : placeEntity.properties.get? "address..zip" = some zip := by
  decide +kernel

end Declarations

open Declarations

theorem city_found_and_zip_unknown :
    Cli.readConfig "places.toml" (.text placeText) = .ok placeConfig ∧
      placeConfig.registered.Honours "Place" "address.city" city ∧
      placeConfig.registered.property "Place" (.parse "address..zip") =
        .error (.unknownProperty "Place" "address.zip") := by
  have known : placeEntity.properties.get? "address.city" = some city := by decide +kernel
  have ⟨found, _⟩ := declared_property_found_if_gapless placeConfig placeEntity_listed known
  have ⟨_, unknown⟩ := declared_property_found_if_gapless placeConfig placeEntity_listed zip_known
  refine ⟨placeText_loads, found (by decide +kernel), ?_⟩
  exact (unknown (by decide +kernel)).1 (by decide +kernel)

theorem not_all_declared_properties_found :
    ¬ ∀ (path : String) (state : Cli.FileState) (config : Config),
      Cli.readConfig path state = .ok config →
        ∀ (name text : String) (entity : Catalog.Entity) (declared : Catalog.Property),
          config.catalog.entities.get? name = some entity →
            entity.properties.get? text = some declared →
              config.registered.Honours name text declared := by
  intro all
  have found := all "places.toml" (.text placeText) placeConfig placeText_loads "Place"
    "address..zip" placeEntity zip placeEntity_listed zip_known
  exact absurd found (by decide +kernel)

end FinderQuery
