import FinderQuery.Predicate.Operator

namespace FinderQuery

/-- How a string argument becomes the operand of a clause: as it is, or as the LIKE pattern of the
texts that start or end with it. -/
inductive PatternMode where
  | exact
  | startsWith
  | endsWith
  deriving DecidableEq

structure ClauseContext where
  collection : String
  property : String
  ignoreCase : Bool

namespace Clause

inductive Piece where
  | text (content : String)
  | property
  | collection
  | ignoreCase
  /-- The bind variable this far behind the part's first one. -/
  | key (offset : Nat)

def Piece.render (context : ClauseContext) (first : Nat) : Piece → String
  | text content => content
  | property => context.property
  | collection => context.collection
  | ignoreCase => if context.ignoreCase then "true" else "false"
  | key offset => "@" ++ toString (first + offset)

def render (context : ClauseContext) (first : Nat) (pieces : List Piece) : String :=
  String.join (pieces.map (Piece.render context first))

end Clause

inductive Fragment where
  | source (text : String)
  | predicate (text : String)
  deriving DecidableEq

namespace Fragment

def text : Fragment → String
  | source text => text
  | predicate text => text

def isSource : Fragment → Bool
  | source _ => true
  | predicate _ => false

end Fragment

structure Template where
  pieces : List Clause.Piece
  isSource : Bool := false
  arity : Nat
  mode : PatternMode := .exact

namespace Template

open Clause.Piece

def render (template : Template) (context : ClauseContext) (first : Nat) : Fragment :=
  let text := Clause.render context first template.pieces
  if template.isSource then .source text else .predicate text

def withoutDistance (source : List Clause.Piece) : List Clause.Piece :=
  [text "(FOR e IN "] ++ source ++ [text " RETURN UNSET(e, '_distance'))"]

def comparison (symbol : String) : Template :=
  { pieces := [property, text (" " ++ symbol ++ " "), key 0], arity := 1 }

def constant (comparison : String) : Template :=
  { pieces := [property, text comparison], arity := 0 }

/-- The documents between two radii around a point: those within the outer one, which is the fourth
variable, less those within the inner one. -/
def donut : Template where
  pieces := withoutDistance
    [text "MINUS(WITHIN(", collection, text ", ", key 0, text ", ", key 1, text ", ", key 3,
      text "), WITHIN(", collection, text ", ", key 0, text ", ", key 1, text ", ", key 2,
      text "))"]
  isSource := true
  arity := 2

end Template

open Clause.Piece in
def Operator.template? : Operator → Option Template
  | simpleProperty => some (.comparison "==")
  | negatingSimpleProperty => some (.comparison "!=")
  | isTrue => some (.constant " == true")
  | isFalse => some (.constant " == false")
  | isNull => some (.constant " == null")
  | isNotNull => some (.constant " != null")
  | hasProperty => some { pieces := [text "HAS(e, ", key 0, text ")"], arity := 1 }
  | before | lessThan => some (.comparison "<")
  | after | greaterThan => some (.comparison ">")
  | lessThanEqual => some (.comparison "<=")
  | greaterThanEqual => some (.comparison ">=")
  | between => some
    { pieces := [key 0, text " <= ", property, text " AND ", property, text " <= ", key 1]
      arity := 2 }
  | like => some (.comparison "LIKE")
  | notLike => some
    { pieces := [text "NOT(", property, text " LIKE ", key 0, text ")"], arity := 1 }
  | startingWith => some { Template.comparison "LIKE" with mode := .startsWith }
  | endingWith => some { Template.comparison "LIKE" with mode := .endsWith }
  | regex => some
    { pieces := [text "REGEX_TEST(", property, text ", ", key 0, text ", ", ignoreCase, text ")"]
      arity := 1 }
  | isIn => some (.comparison "IN")
  | notIn => some (.comparison "NOT IN")
  | containing => some { pieces := [key 0, text " IN ", property], arity := 1 }
  | near => some
    { pieces := Template.withoutDistance
        [text "NEAR(", collection, text ", ", key 0, text ", ", key 1, text ")"]
      isSource := true
      arity := 1 }
  | within => some
    { pieces := Template.withoutDistance
        [text "WITHIN(", collection, text ", ", key 0, text ", ", key 1, text ", ", key 2,
          text ")"]
      isSource := true
      arity := 2 }
  | notContaining | isEmpty | isNotEmpty => none

end FinderQuery
