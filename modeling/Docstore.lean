import Docstore.Address
import Docstore.Engine.Script
import Docstore.Store.Objects
import Docstore.Store.Session
import Docstore.Store.Startup
import Docstore.Proofs.Sql.Numbering
import Docstore.Proofs.Query.Conditions
import Docstore.Proofs.Query.Data
import Docstore.Proofs.Query.KeySafety
import Docstore.Proofs.Query.Pipelines
import Docstore.Proofs.Query.Unconstrained
import Docstore.Proofs.Write.Statements
import Docstore.Proofs.Query.Conjunction
import Docstore.Proofs.Sql.Nesting
import Docstore.Proofs.Query.Structure
import Docstore.Proofs.Query.Equivariance
import Docstore.Proofs.Query.Inequality
import Docstore.Proofs.Query.Presence
import Docstore.Proofs.Query.Groups
import Docstore.Proofs.Query.LetterCase
import Docstore.Proofs.Query.Literals
import Docstore.Proofs.Query.ColumnNames
import Docstore.Proofs.Write.RoundTrip
import Docstore.Proofs.Write.Agreement
import Docstore.Proofs.Store.Changes
import Docstore.Proofs.Store.Sessions
import Docstore.Proofs.Store.Inquiries
import Docstore.Proofs.Schema.Codec
import Docstore.Proofs.Store.Mutations
import Docstore.Proofs.Store.Network
import Docstore.Proofs.Store.Evolution
import Docstore.Proofs.Store.FieldEntries
import Docstore.Proofs.Store.Upgrades
import Docstore.Proofs.Schema.Forms
import Docstore.Proofs.Query.Lookups
import Docstore.Proofs.Sql.Definitions
import Docstore.Proofs.Sql.Evaluation
import Docstore.Proofs.Write.Forms
import Docstore.Proofs.Write.Places
import Docstore.Proofs.Write.Paths
import Docstore.Proofs.Write.Columns
import Docstore.Proofs.Write.Cells
import Docstore.Proofs.Write.Formulas
import Docstore.Proofs.Write.AuthData
import Docstore.Proofs.Write.Operations
import Docstore.Proofs.Write.Folding
import Docstore.Proofs.Write.ReservedKeys
import Docstore.Proofs.Write.Providers
import Docstore.Proofs.Write.Upserts
import Docstore.Proofs.Store.Upserts
import Docstore.Proofs.Query.Quotes
import Docstore.Proofs.Query.FreeSpacing
import Docstore.Proofs.Query.Prefixes
import Docstore.Proofs.Text.LetterCase
import Docstore.Proofs.Time.Phrases
import Docstore.Proofs.Time.Overflow
import Docstore.Proofs.Encoding.RoundTrip
import Docstore.Proofs.Query.StageOrder
import Docstore.Proofs.Wire.Integers
import Docstore.Proofs.Wire.Widths
import Docstore.Proofs.Query.RowShapes
import Docstore.Proofs.Query.Grouping
import Docstore.Proofs.Query.Projections
import Docstore.Proofs.Query.Filters
import Docstore.Proofs.Store.IndexPlans
import Docstore.Proofs.Store.IndexNames
import Docstore.Proofs.Store.Duplicates
import Docstore.Proofs.Store.Removals
import Docstore.Proofs.Contexts
