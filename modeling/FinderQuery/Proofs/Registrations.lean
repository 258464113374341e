import FinderQuery.Catalog
import FinderQuery.Proofs.Earlier
import Mathlib.Data.List.Induction

namespace FinderQuery

inductive Registration where
  | entity (name collection : String)
  | property (name path : String) (declared : Catalog.Property)

namespace Registration

def entityName : Registration → String
  | entity name _ => name
  | property name _ _ => name

def owner? : Registration → Option String
  | entity .. => none
  | property name _ _ => some name

def collectionOf? (name : String) : Registration → Option String
  | entity other collection => if other = name then some collection else none
  | property .. => none

def propertyOf? (name path : String) : Registration → Option Catalog.Property
  | entity .. => none
  | property other text declared => if other = name ∧ text = path then some declared else none

/-- Two registrations say something about one thing: the collection of an entity, or a property. -/
def Clashes : Registration → Registration → Prop
  | entity name _, entity other _ => name = other
  | property name path _, property other text _ => name = other ∧ path = text
  | _, _ => False

def lastCollection? (history : List Registration) (name : String) : Option String :=
  (history.filterMap (collectionOf? name)).getLast?

def lastProperty? (history : List Registration) (name path : String) : Option Catalog.Property :=
  (history.filterMap (propertyOf? name path)).getLast?

def lastDeclared (history : List Registration) (name : String) (path : PropertyPath) :
    Except CompileError Catalog.Property :=
  match lastProperty? history name path.display with
  | some declared => .ok declared
  | none =>
    if name ∈ history.map entityName then .error (.unknownProperty name path.display)
    else .error (.unknownEntity name)

theorem entityName_of_collectionOf? {step : Registration} {name collection : String}
    (named : step.collectionOf? name = some collection) : step.entityName = name := by
  cases step with
  | entity other given =>
    simp only [collectionOf?, Option.ite_none_right_eq_some] at named
    exact named.1
  | property => cases named

theorem collectionOf?_of_not_clashes {first second : Registration} (apart : ¬ first.Clashes second)
    (name : String) : first.collectionOf? name = none ∨ second.collectionOf? name = none := by
  cases first with
  | property => exact Or.inl rfl
  | entity firstName collection =>
    cases second with
    | property => exact Or.inr rfl
    | entity secondName other =>
      by_cases hit : firstName = name
      · subst hit
        exact Or.inr (if_neg fun same => apart same.symm)
      · exact Or.inl (if_neg hit)

theorem propertyOf?_of_not_clashes {first second : Registration} (apart : ¬ first.Clashes second)
    (name path : String) :
    first.propertyOf? name path = none ∨ second.propertyOf? name path = none := by
  cases first with
  | entity => exact Or.inl rfl
  | property firstName firstPath declared =>
    cases second with
    | entity => exact Or.inr rfl
    | property secondName secondPath other =>
      by_cases hit : firstName = name ∧ firstPath = path
      · obtain ⟨rfl, rfl⟩ := hit
        exact Or.inr (if_neg fun same => apart ⟨same.1.symm, same.2.symm⟩)
      · exact Or.inl (if_neg hit)

theorem lastCollection?_eq_none_iff {history : List Registration} {name : String} :
    lastCollection? history name = none ↔ ∀ step ∈ history, step.collectionOf? name = none := by
  rw [lastCollection?, List.getLast?_eq_none_iff, List.filterMap_eq_nil_iff]

theorem mem_owners_iff {history : List Registration} {name : String}
    (none : lastCollection? history name = none) :
    name ∈ history.filterMap owner? ↔ name ∈ history.map entityName := by
  rw [lastCollection?_eq_none_iff] at none
  rw [List.mem_filterMap, List.mem_map]
  constructor
  · intro given
    obtain ⟨step, member, owns⟩ := given
    refine ⟨step, member, ?_⟩
    cases step with
    | entity => cases owns
    | property other path declared => exact Option.some.inj owns
  · intro given
    obtain ⟨step, member, rfl⟩ := given
    refine ⟨step, member, ?_⟩
    cases step with
    | entity other collection => simpa [collectionOf?, entityName] using none _ member
    | property => rfl

end Registration

open Registration

namespace Catalog

def register (catalog : Catalog) : Registration → Catalog
  | .entity name collection => catalog.registerEntity name collection
  | .property name path declared => catalog.registerProperty name path declared

def ofHistory (history : List Registration) : Catalog := history.foldl register empty

def collection? (catalog : Catalog) (name : String) : Option String :=
  (catalog.entities.get? name).map (·.collection)

def property? (catalog : Catalog) (name path : String) : Option Property :=
  (catalog.entities.get? name).bind (·.properties.get? path)

/-- A catalog is what can be looked up in it. -/
theorem eq_of_lookups_eq {first second : Catalog}
    (collections : ∀ name, first.collection? name = second.collection? name)
    (properties : ∀ name path, first.property? name path = second.property? name path) :
    first = second := by
  obtain ⟨entities⟩ := first
  obtain ⟨others⟩ := second
  refine congrArg Catalog.mk (Table.eq_of_get?_eq fun name => ?_)
  have collection := collections name
  have declared := properties name
  simp only [collection?, property?] at collection declared
  cases entry : entities.get? name with
  | none =>
    rw [entry] at collection
    exact (Option.map_eq_none_iff.mp collection.symm).symm
  | some entity =>
    cases other : others.get? name with
    | none => simp [entry, other] at collection
    | some second =>
      simp only [entry, other, Option.map_some, Option.some.injEq,
        Option.bind_some] at collection declared
      have content := Table.eq_of_get?_eq declared
      obtain ⟨firstCollection, firstProperties⟩ := entity
      obtain ⟨secondCollection, secondProperties⟩ := second
      cases collection
      cases content
      rfl

theorem collection?_register (catalog : Catalog) (step : Registration) (name : String) :
    (catalog.register step).collection? name =
      (step.collectionOf? name).or
        ((catalog.collection? name).or (if step.entityName = name then some name else none)) := by
  cases step with
  | entity other collection =>
    by_cases hit : name = other
    · simp [register, registerEntity, collection?, collectionOf?, hit]
    · simp [register, registerEntity, collection?, collectionOf?, entityName, hit, Ne.symm hit]
  | property other path declared =>
    by_cases hit : name = other
    · subst hit
      cases entry : catalog.entities.get? name <;>
        simp [register, registerProperty, collection?, collectionOf?, entityName, entry]
    · simp [register, registerProperty, collection?, collectionOf?, entityName, hit, Ne.symm hit]

theorem property?_register (catalog : Catalog) (step : Registration) (name path : String) :
    (catalog.register step).property? name path =
      (step.propertyOf? name path).or (catalog.property? name path) := by
  cases step with
  | entity other collection =>
    by_cases hit : name = other
    · subst hit
      cases entry : catalog.entities.get? name <;>
        simp [register, registerEntity, property?, propertyOf?, entry]
    · simp [register, registerEntity, property?, propertyOf?, hit]
  | property other text declared =>
    by_cases hit : name = other
    · subst hit
      by_cases same : text = path
      · simp [register, registerProperty, property?, propertyOf?, same]
      · cases entry : catalog.entities.get? name <;>
          simp [register, registerProperty, property?, propertyOf?, entry, same, Ne.symm same]
    · simp [register, registerProperty, property?, propertyOf?, hit, Ne.symm hit]

theorem register_comm (catalog : Catalog) {first second : Registration}
    (apart : ¬ first.Clashes second) :
    (catalog.register first).register second = (catalog.register second).register first := by
  refine eq_of_lookups_eq (fun name => ?_) fun name path => ?_
  · simp only [collection?_register]
    by_cases firstNames : first.entityName = name <;>
      by_cases secondNames : second.entityName = name <;>
      rcases collectionOf?_of_not_clashes apart name with none | none <;>
      simp [none, firstNames, secondNames]
  · simp only [property?_register]
    rcases propertyOf?_of_not_clashes apart name path with none | none <;> simp [none]

theorem ofHistory_concat (history : List Registration) (step : Registration) :
    ofHistory (history ++ [step]) = (ofHistory history).register step := by
  rw [ofHistory, List.foldl_append]
  rfl

theorem collection?_ofHistory (history : List Registration) (name : String) :
    (ofHistory history).collection? name =
      (lastCollection? history name).or
        (if name ∈ history.map entityName then some name else none) := by
  induction history using List.reverseRecOn with
  | nil => rfl
  | append_singleton history step ih =>
    rw [ofHistory_concat, collection?_register, ih, lastCollection?, lastCollection?]
    simp only [List.filterMap_append, List.getLast?_append, List.map_append, List.mem_append]
    cases found : step.collectionOf? name with
    | some collection => simp [found]
    | none =>
      by_cases names : step.entityName = name
      · by_cases named : name ∈ history.map entityName <;> simp [found, names, named]
      · simp [found, names, Ne.symm names]

theorem property?_ofHistory (history : List Registration) (name path : String) :
    (ofHistory history).property? name path = lastProperty? history name path := by
  induction history using List.reverseRecOn with
  | nil => rfl
  | append_singleton history step ih =>
    rw [ofHistory_concat, property?_register, ih, lastProperty?, lastProperty?,
      List.filterMap_append, List.getLast?_append]
    cases found : step.propertyOf? name path <;> simp [found]

theorem collectionName_eq (catalog : Catalog) (name : String) :
    catalog.collectionName name =
      match catalog.collection? name with
      | some collection => .ok collection
      | none => .error (.unknownEntity name) := by
  rw [collectionName, entity, collection?]
  cases catalog.entities.get? name <;> rfl

theorem property_eq (catalog : Catalog) (name : String) (path : PropertyPath) :
    catalog.property name path =
      match catalog.property? name path.display with
      | some declared => .ok declared
      | none =>
        if (catalog.collection? name).isSome then .error (.unknownProperty name path.display)
        else .error (.unknownEntity name) := by
  rw [property, entity, collection?, property?]
  cases catalog.entities.get? name with
  | none => rfl
  | some entity => cases entity.properties.get? path.display <;> rfl

/-- What a catalog says if for each thing the last registration counts. -/
structure Reflects (catalog : Catalog) (history : List Registration) : Prop where
  collectionName : ∀ name, catalog.collectionName name =
    match lastCollection? history name with
    | some collection => .ok collection
    | none =>
      if name ∈ history.filterMap owner? then .ok name else .error (.unknownEntity name)
  leafProperty : ∀ name path,
    catalog.leafProperty name path = (lastDeclared history name path).map (·.leaf)
  fieldPath : ∀ name path,
    catalog.fieldPath name path =
      (lastDeclared history name path).map fun declared => declared.field.getD path.display
  increasing : catalog.entityNames.Pairwise (· < ·)
  entityNames : ∀ name, name ∈ catalog.entityNames ↔ name ∈ history.map entityName

theorem isSome_collection?_ofHistory (history : List Registration) (name : String) :
    ((ofHistory history).collection? name).isSome ↔ name ∈ history.map entityName := by
  rw [collection?_ofHistory]
  by_cases named : name ∈ history.map entityName
  · simp [named]
  · have none : lastCollection? history name = none := by
      rw [lastCollection?_eq_none_iff]
      intro step member
      by_contra given
      obtain ⟨collection, given⟩ := Option.ne_none_iff_exists'.mp given
      exact named (List.mem_map.mpr ⟨step, member, entityName_of_collectionOf? given⟩)
    simp [named, none]

theorem property_ofHistory (history : List Registration) (name : String) (path : PropertyPath) :
    (ofHistory history).property name path = lastDeclared history name path := by
  rw [property_eq, property?_ofHistory, lastDeclared]
  simp only [isSome_collection?_ofHistory]

theorem reflects_ofHistory (history : List Registration) :
    (ofHistory history).Reflects history where
  collectionName name := by
    rw [collectionName_eq, collection?_ofHistory]
    cases last : lastCollection? history name with
    | some collection => rfl
    | none => by_cases named : name ∈ history.map entityName <;> simp [mem_owners_iff last, named]
  leafProperty name path := by rw [leafProperty, property_ofHistory]
  fieldPath name path := by rw [fieldPath, property_ofHistory]
  increasing := Table.names_sorted _
  entityNames name := by
    rw [Catalog.entityNames, Table.mem_names_iff, ← isSome_collection?_ofHistory, collection?,
      Option.isSome_map]

theorem property_registerEntity {catalog : Catalog} {name collection entity : String}
    {path : PropertyPath} {declared : Property}
    (known : catalog.property entity path = .ok declared) :
    (catalog.registerEntity name collection).property entity path = .ok declared := by
  have kept := catalog.property?_register (.entity name collection) entity path.display
  rw [show (Registration.entity name collection).propertyOf? entity path.display = none from rfl,
    Option.none_or] at kept
  have same : catalog.registerEntity name collection =
      catalog.register (.entity name collection) := rfl
  rw [property_eq] at known ⊢
  rw [same, kept]
  cases found : catalog.property? entity path.display with
  | some declared => simpa [found] using known
  | none => by_cases named : (catalog.collection? entity).isSome <;> simp [found, named] at known

/-- For each thing that a catalog can be asked for, the last registration counts. Registrations of
different things commute, and naming a collection takes no property away. -/
theorem last_registration_counts :
    (∀ history, (ofHistory history).Reflects history) ∧
    (∀ first second, ¬ first.Clashes second → ∀ catalog : Catalog,
      (catalog.register first).register second = (catalog.register second).register first) ∧
    ∀ (catalog : Catalog) (name collection entity : String) (path : PropertyPath),
      (∀ leaf, catalog.leafProperty entity path = .ok leaf →
        (catalog.registerEntity name collection).leafProperty entity path = .ok leaf) ∧
      ∀ field, catalog.fieldPath entity path = .ok field →
        (catalog.registerEntity name collection).fieldPath entity path = .ok field := by
  refine ⟨reflects_ofHistory, fun first second apart catalog => register_comm catalog apart,
    fun catalog name collection entity path => ?_⟩
  constructor
  · intro leaf known
    obtain ⟨declared, found, rfl⟩ := map_eq_ok_iff.mp known
    rw [leafProperty, property_registerEntity found]
    rfl
  · intro field known
    obtain ⟨declared, found, rfl⟩ := map_eq_ok_iff.mp known
    rw [fieldPath, property_registerEntity found]
    rfl

theorem named_behind_its_property :
    let declared : Registration := .property "Place" "name" ⟨none, { kind := .string }⟩
    let named : Registration := .entity "Place" "places"
    let catalog := ofHistory [declared, named]
    ¬ declared.Clashes named ∧
      catalog = ofHistory [named, declared] ∧
      catalog.leafProperty "Place" ⟨["name"]⟩ = .ok { kind := .string } ∧
      (catalog.registerEntity "Place" "sites").leafProperty "Place" ⟨["name"]⟩ =
        .ok { kind := .string } ∧
      catalog.fieldPath "Place" ⟨["name"]⟩ = .ok "name" ∧
      (catalog.registerEntity "Place" "sites").fieldPath "Place" ⟨["name"]⟩ = .ok "name" := by
  intro declared named catalog
  obtain ⟨-, commute, keep⟩ := last_registration_counts
  have leaf : catalog.leafProperty "Place" ⟨["name"]⟩ = .ok { kind := .string } := rfl
  have field : catalog.fieldPath "Place" ⟨["name"]⟩ = .ok "name" := rfl
  obtain ⟨leafKept, fieldKept⟩ := keep catalog "Place" "sites" "Place" ⟨["name"]⟩
  exact ⟨id, commute declared named id empty, leaf, leafKept _ leaf, field, fieldKept _ field⟩

end Catalog

end FinderQuery
