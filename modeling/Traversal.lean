import Traversal.Main
import Traversal.Query.Steps
import Traversal.Proofs.Machine
import Traversal.Proofs.Translation
import Traversal.Proofs.Reading
import Traversal.Proofs.Spelling
import Traversal.Proofs.Tokens
import Traversal.Proofs.Items
import Traversal.Proofs.Completeness
import Traversal.Proofs.Soundness
import Traversal.Proofs.WellFormed
import Traversal.Proofs.Stream
import Traversal.Proofs.Legibility
import Traversal.Proofs.Arrangement
import Traversal.Proofs.Unambiguity
import Traversal.Proofs.Trace
import Traversal.Proofs.Verdict
import Traversal.Proofs.Gates
import Traversal.Proofs.SchemaSets
import Traversal.Proofs.SchemaErrors
import Traversal.Proofs.RootLabels
import Traversal.Proofs.EdgeLabels
import Traversal.Proofs.Delimiters
import Traversal.Proofs.Balance
import Traversal.Proofs.Stacks
import Traversal.Proofs.Bookkeeping
import Traversal.Proofs.Visits
import Traversal.Compiler.Flat
import Traversal.Proofs.FlatLog
import Traversal.Proofs.VertexCounts
import Traversal.Proofs.Remainder
import Traversal.Query.Pieces
import Traversal.Query.Walk
import Traversal.Proofs.InStep
import Traversal.Proofs.Pieces
import Traversal.Proofs.Limits
import Traversal.Proofs.Attempts
import Traversal.Proofs.Expectations
import Traversal.Proofs.Quotation
import Traversal.Proofs.Boundaries
import Traversal.Proofs.Lines
import Traversal.Proofs.Excerpts
import Traversal.Proofs.Trimming
import Traversal.Proofs.QueryFiles
import Traversal.Proofs.Locations
import Traversal.Proofs.CostRules
import Traversal.Proofs.VariableValues
import Traversal.Proofs.Layers
import Traversal.Proofs.EventLines
import Traversal.Proofs.Agreement
import Traversal.Proofs.Declarations
import Traversal.Proofs.RuleTexts
