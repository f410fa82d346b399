import FindQuery.Filter.Node
import FindQuery.Handler
import FindQuery.Logging
import FindQuery.Proofs.BraceGroups
import FindQuery.Proofs.DepthBound
import FindQuery.Proofs.ElementQueries
import FindQuery.Proofs.HandlerCalls
import FindQuery.Proofs.Isolation
import FindQuery.Proofs.JsonOperands
import FindQuery.Proofs.LenientMode
import FindQuery.Proofs.LogicalOperands
import FindQuery.Proofs.NormalInstants
import FindQuery.Proofs.NumberTokens
import FindQuery.Proofs.OperatorKeys
import FindQuery.Proofs.OperatorNesting
import FindQuery.Proofs.Pages
import FindQuery.Proofs.QueryStrings
import FindQuery.Proofs.References
import FindQuery.Proofs.Refusals
import FindQuery.Proofs.RepeatedValues
import FindQuery.Proofs.Repetition
import FindQuery.Proofs.SearchPatterns
import FindQuery.Proofs.Segments
import FindQuery.Proofs.Serialization
import FindQuery.Proofs.SignedNames
import FindQuery.Proofs.StrictConjunctions
import FindQuery.Proofs.Strictness
import FindQuery.Proofs.WrittenInstants
import FindQuery.Proofs.WrittenNames
import FindQuery.Query.Compiler
import FindQuery.Session
import FindQuery.Settings.Basic
import FindQuery.Vocabulary
