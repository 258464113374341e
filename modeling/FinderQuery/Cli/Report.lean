import FinderQuery.Cli.Style
import FinderQuery.Config
import FinderQuery.Encoding.Queries
import FinderQuery.Json.Number
import FinderQuery.Json.Printer

namespace FinderQuery

def Config.EntitySummary.toJson (summary : Config.EntitySummary) : Json :=
  .record
    [("name", .string (some summary.name)), ("collection", .string (some summary.collection)),
      ("properties", .ofNat summary.propertyCount), ("default", .bool summary.isDefault)]

namespace Cli

def line (text : String) : String := text ++ "\n"

def jsonReport (json : Json) : String := line json.pretty

namespace Palette

variable (palette : Palette)

def bindVarLine (name : String) (value : Value) : String :=
  line ("  " ++ palette.key.paint ("@" ++ name ++ " =") ++ " " ++ value.toJson.compact)

def queryReport (query : CompiledQuery) : String :=
  line (palette.query.paint query.text)
    ++ String.join (query.bindVars.entries.map fun (name, value) => palette.bindVarLine name value)

def sortingReport (sorting : Sorting) : String := line (palette.query.paint sorting.render)

def entityLine (summary : Config.EntitySummary) : String :=
  line (palette.key.paint (summary.name ++ " ->") ++ " " ++ summary.collection
    ++ " [" ++ toString summary.propertyCount ++ " properties]"
    ++ if summary.isDefault then " (default)" else "")

def entitiesReport (summaries : List Config.EntitySummary) : String :=
  String.join (summaries.map palette.entityLine)

end Palette

end Cli

end FinderQuery
