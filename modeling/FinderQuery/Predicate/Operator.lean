namespace FinderQuery

inductive Operator where
  | simpleProperty
  | negatingSimpleProperty
  | isTrue
  | isFalse
  | isNull
  | isNotNull
  | hasProperty
  | before
  | lessThan
  | after
  | greaterThan
  | lessThanEqual
  | greaterThanEqual
  | between
  | like
  | notLike
  | startingWith
  | endingWith
  | regex
  | isIn
  | notIn
  | containing
  | notContaining
  | isEmpty
  | isNotEmpty
  | near
  | within
  deriving DecidableEq

namespace Operator

def all : List Operator :=
  [simpleProperty, negatingSimpleProperty, isTrue, isFalse, isNull, isNotNull, hasProperty, before,
    lessThan, after, greaterThan, lessThanEqual, greaterThanEqual, between, like, notLike,
    startingWith, endingWith, regex, isIn, notIn, containing, notContaining, isEmpty, isNotEmpty,
    near, within]

def name : Operator → String
  | simpleProperty => "simple_property"
  | negatingSimpleProperty => "negating_simple_property"
  | isTrue => "true"
  | isFalse => "false"
  | isNull => "is_null"
  | isNotNull => "is_not_null"
  | hasProperty => "exists"
  | before => "before"
  | lessThan => "less_than"
  | after => "after"
  | greaterThan => "greater_than"
  | lessThanEqual => "less_than_equal"
  | greaterThanEqual => "greater_than_equal"
  | between => "between"
  | like => "like"
  | notLike => "not_like"
  | startingWith => "starting_with"
  | endingWith => "ending_with"
  | regex => "regex"
  | isIn => "in"
  | notIn => "not_in"
  | containing => "containing"
  | notContaining => "not_containing"
  | isEmpty => "is_empty"
  | isNotEmpty => "is_not_empty"
  | near => "near"
  | within => "within"

def ofName? (name : String) : Option Operator := all.find? (·.name = name)

/-- A geo operator replaces the documents that the query iterates over, instead of filtering
them. -/
def isGeo : Operator → Bool
  | near | within => true
  | _ => false

@[simp] theorem ofName?_name (operator : Operator) : ofName? operator.name = some operator := by
  cases operator <;> decide

end Operator

end FinderQuery
