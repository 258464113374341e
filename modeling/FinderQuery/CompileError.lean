import FinderQuery.Predicate.Tree

namespace FinderQuery

inductive ArgumentFault where
  | listAsScalar
  | sequenceAsPattern
  | nonStringAsPattern
  | other (reason : String)
  deriving DecidableEq

def ArgumentFault.message : ArgumentFault → String
  | listAsScalar => "lists must be passed as a sequence argument"
  | sequenceAsPattern => "pattern operators need a single string"
  | nonStringAsPattern => "pattern operators need a string"
  | other reason => reason

inductive CompileError where
  | unsupportedOperator (operator : Operator)
  | insufficientArguments (operator : Operator) (needed supplied : Nat)
  | misplacedGeoRange (operator : Operator)
  | invalidArgument (operator : Operator) (fault : ArgumentFault)
  | multipleGeoSources
  | unknownEntity (entity : String)
  | unknownProperty (entity path : String)
  deriving DecidableEq

namespace CompileError

def code : CompileError → String
  | unsupportedOperator _ => "UnsupportedOperator"
  | insufficientArguments .. => "InsufficientArguments"
  | misplacedGeoRange _ => "MisplacedGeoRange"
  | invalidArgument .. => "InvalidArgument"
  | multipleGeoSources => "MultipleGeoSources"
  | unknownEntity _ => "UnknownEntity"
  | unknownProperty .. => "UnknownProperty"

def message : CompileError → String
  | unsupportedOperator operator =>
    "operator '" ++ operator.name ++ "' is not supported by derived queries"
  | insufficientArguments operator needed supplied =>
    "'" ++ operator.name ++ "' needs " ++ toString needed ++ " argument(s) but only "
      ++ toString supplied ++ " remained"
  | misplacedGeoRange operator =>
    "geo range for '" ++ operator.name ++ "' must follow a point argument of a within part"
  | invalidArgument operator fault =>
    "invalid argument for '" ++ operator.name ++ "': " ++ fault.message
  | multipleGeoSources => "query combines more than one geo iteration source"
  | unknownEntity entity => "unknown entity '" ++ entity ++ "'"
  | unknownProperty entity path =>
    "unknown property '" ++ path ++ "' on entity '" ++ entity ++ "'"

def messageWithCode (error : CompileError) : String :=
  "[" ++ error.code ++ "] " ++ error.message

end CompileError

end FinderQuery
