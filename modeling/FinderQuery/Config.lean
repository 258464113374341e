import FinderQuery.Catalog
import FinderQuery.Toml.Document
import FinderQuery.Toml.Record

namespace FinderQuery

open Decoding (required withDefault)
open Toml (fields? asString? asBool? asName? asTable?)

namespace Catalog

def Property.ofToml? (toml : Toml) : Option Property := do
  let [field, kind, collection] ← fields? ["field", "type", "collection"] toml | none
  let field ← withDefault none (some <$> asString? ·) field
  let kind ← withDefault .other (asName? PropertyKind.ofName?) kind
  let collection ← withDefault false asBool? collection
  some ⟨field, ⟨kind, collection⟩⟩

def Entity.ofToml? (toml : Toml) : Option Entity := do
  let [collection, properties] ← fields? ["collection", "properties"] toml | none
  some
    { collection := ← required asString? collection
      properties := ← withDefault ∅ (asTable? Property.ofToml?) properties }

end Catalog

def Catalog.registerWith (catalog : Catalog) (name : String) (entity : Entity) : Catalog :=
  entity.properties.entries.foldl
    (fun catalog entry => catalog.registerProperty name entry.1 entry.2)
    (catalog.registerEntity name entity.collection)

structure Config where
  defaultEntity : Option String := none
  catalog : Catalog := .empty
  deriving DecidableEq

namespace Config

def ofToml? (toml : Toml) : Option Config := do
  let [defaultEntity, entities] ← fields? ["default_entity", "entities"] toml | none
  some
    { defaultEntity := ← withDefault none (some <$> asString? ·) defaultEntity
      catalog := ⟨← withDefault ∅ (asTable? Catalog.Entity.ofToml?) entities⟩ }

def parse? (text : String) : Option Config := Toml.parse? text >>= ofToml?

def registered (config : Config) : Catalog :=
  config.catalog.entities.entries.foldl
    (fun catalog entry => catalog.registerWith entry.1 entry.2) .empty

def unknownDefault? (config : Config) : Option String :=
  config.defaultEntity.filter fun name => !config.catalog.entities.contains name

structure EntitySummary where
  name : String
  collection : String
  propertyCount : Nat
  isDefault : Bool

def summaries (config : Config) : List EntitySummary :=
  config.catalog.entities.entries.map fun (name, entity) =>
    ⟨name, entity.collection, entity.properties.size, config.defaultEntity = some name⟩

end Config

end FinderQuery
