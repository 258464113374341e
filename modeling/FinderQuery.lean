import FinderQuery.Main
import FinderQuery.Proofs.Earlier
import FinderQuery.Proofs.Binding
import FinderQuery.Proofs.Outline
import FinderQuery.Proofs.Templates
import FinderQuery.Proofs.Placement
import FinderQuery.Proofs.Reference
import FinderQuery.Proofs.Agreement
import FinderQuery.Proofs.Success
import FinderQuery.Proofs.Numbering
import FinderQuery.Proofs.Placeholders
import FinderQuery.Proofs.Closed
import FinderQuery.Proofs.Documents
import FinderQuery.Proofs.BinderRuns
import FinderQuery.Proofs.Patterns
import FinderQuery.Proofs.Splitting
import FinderQuery.Proofs.Filter
import FinderQuery.Proofs.Renumbering
import FinderQuery.Proofs.Composition
import FinderQuery.Proofs.CaseContext
import FinderQuery.Proofs.Consumption
import FinderQuery.Proofs.CaseBlindness
import FinderQuery.Proofs.OwnVariables
import FinderQuery.Proofs.Registrations
import FinderQuery.Proofs.CaseRequests
import FinderQuery.Proofs.Projection
import FinderQuery.Proofs.Reports
import FinderQuery.Proofs.Json.Numerals
import FinderQuery.Proofs.Json.Tokens
import FinderQuery.Proofs.Json.Texts
import FinderQuery.Proofs.Json.Records
import FinderQuery.Proofs.Encoding.Spellings
import FinderQuery.Proofs.Encoding.Values
import FinderQuery.Proofs.Encoding.Trees
import FinderQuery.Proofs.Encoding.Queries
import FinderQuery.Proofs.Declarations
import FinderQuery.Proofs.GeoVariables
import FinderQuery.Proofs.PatternVariables
import FinderQuery.Proofs.RegexEscapes
import FinderQuery.Proofs.Cli.Stages
import FinderQuery.Proofs.Cli.Outcomes
import FinderQuery.Proofs.Cli.Decorations
import FinderQuery.Proofs.Cli.Printing
import FinderQuery.Proofs.Additions
import FinderQuery.Proofs.FirstMisfit
import FinderQuery.Proofs.Cli.Entities
import FinderQuery.Proofs.Cli.SortKeys
import FinderQuery.Proofs.VariableNames
import FinderQuery.Proofs.Scoping
import FinderQuery.Proofs.Lowering
import FinderQuery.Proofs.LikeEscapes
import FinderQuery.Proofs.LoweredPatterns
import FinderQuery.Proofs.Paths
import FinderQuery.Proofs.SortClauses
