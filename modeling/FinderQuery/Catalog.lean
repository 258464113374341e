import FinderQuery.CompileError
import FinderQuery.Table

namespace FinderQuery

inductive PropertyKind where
  | string
  | number
  | boolean
  | geo
  | other
  deriving DecidableEq

namespace PropertyKind

def all : List PropertyKind := [string, number, boolean, geo, other]

def name : PropertyKind → String
  | string => "string"
  | number => "number"
  | boolean => "boolean"
  | geo => "geo"
  | other => "other"

def ofName? (name : String) : Option PropertyKind := all.find? (·.name = name)

def isLowerable : PropertyKind → Bool
  | string => true
  | _ => false

end PropertyKind

/-- What the last name of a path stands for: one value of a kind, or a collection of such. -/
structure Leaf where
  kind : PropertyKind := .other
  collection : Bool := false
  deriving DecidableEq

/-- What a compiler asks about entities and the paths of their properties. -/
structure Metadata where
  collectionName : String → Except CompileError String
  fieldPath : String → PropertyPath → Except CompileError String
  leafProperty : String → PropertyPath → Except CompileError Leaf

namespace Catalog

structure Property where
  field : Option String
  leaf : Leaf
  deriving DecidableEq

structure Entity where
  collection : String
  properties : Table Property
  deriving DecidableEq

end Catalog

structure Catalog where
  entities : Table Catalog.Entity
  deriving DecidableEq

namespace Catalog

def empty : Catalog := ⟨∅⟩

def registerEntity (catalog : Catalog) (name collection : String) : Catalog :=
  let properties := match catalog.entities.get? name with
    | some entity => entity.properties
    | none => ∅
  ⟨catalog.entities.insert name ⟨collection, properties⟩⟩

/-- Declares a property under the text of its path. An entity that is not registered is, with its
own name for its collection. -/
def registerProperty (catalog : Catalog) (name path : String) (property : Property) : Catalog :=
  let entity := (catalog.entities.get? name).getD ⟨name, ∅⟩
  ⟨catalog.entities.insert name
    { entity with properties := entity.properties.insert path property }⟩

def entityNames (catalog : Catalog) : List String := catalog.entities.names

def entity (catalog : Catalog) (name : String) : Except CompileError Entity :=
  match catalog.entities.get? name with
  | some entity => .ok entity
  | none => .error (.unknownEntity name)

def property (catalog : Catalog) (name : String) (path : PropertyPath) :
    Except CompileError Property :=
  match catalog.entity name with
  | .error error => .error error
  | .ok entity =>
    match entity.properties.get? path.display with
    | some property => .ok property
    | none => .error (.unknownProperty name path.display)

def collectionName (catalog : Catalog) (name : String) : Except CompileError String :=
  (catalog.entity name).map (·.collection)

def fieldPath (catalog : Catalog) (name : String) (path : PropertyPath) :
    Except CompileError String :=
  (catalog.property name path).map fun property => property.field.getD path.display

def leafProperty (catalog : Catalog) (name : String) (path : PropertyPath) :
    Except CompileError Leaf :=
  (catalog.property name path).map (·.leaf)

def metadata (catalog : Catalog) : Metadata :=
  ⟨catalog.collectionName, catalog.fieldPath, catalog.leafProperty⟩

instance : Coe Catalog Metadata := ⟨metadata⟩

end Catalog

end FinderQuery
