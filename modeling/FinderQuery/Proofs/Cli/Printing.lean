import FinderQuery.Proofs.Cli.Decorations
import FinderQuery.Proofs.Encoding.Trees
import FinderQuery.Proofs.Closed

namespace FinderQuery

namespace Json

end Json

namespace Cli

/-- A compilation that gets as far as the compiler: its words are understood, its configuration
loads, its entity is found, and its request decodes. -/
structure Prepared (surroundings : Surroundings Id) (words : List String) where
  invocation : Invocation
  path : String
  requested : Option String
  config : Config
  entity : String
  request : CompileRequest
  parsed : Invocation.parse surroundings.environment.config words = .ok invocation
  command : invocation.command = .compile path requested
  loaded : readConfig (invocation.configFile surroundings).1
    (invocation.configFile surroundings).2 = .ok config
  chosen : chooseEntity config requested = .ok entity
  decoded : surroundings.request path = .ok request

namespace Prepared

variable {surroundings : Surroundings Id} {words : List String}

def result (prepared : Prepared surroundings words) : Except CompileError CompiledQuery :=
  (FinderQuery.compile prepared.config.registered prepared.entity prepared.request.tree
    prepared.request.arguments prepared.request.sorting).result

end Prepared

def placeText : String :=
  "default_entity = \"Place\"\n" ++
    "entities.Place = \x7b collection = \"places\", properties.name.type = \"string\" \x7d"

end Cli

end FinderQuery
