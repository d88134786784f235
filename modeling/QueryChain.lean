import QueryChain.Database.Session
import QueryChain.Engine.Pool
import QueryChain.Failure.Named
import QueryChain.Log.Run
import QueryChain.Log.Setup
import QueryChain.Proofs.Chain.Acceptance
import QueryChain.Proofs.Chain.Failure
import QueryChain.Proofs.Chain.Payload
import QueryChain.Proofs.Chain.Reading
import QueryChain.Proofs.Chain.Record
import QueryChain.Proofs.Chain.Refinement
import QueryChain.Proofs.Chain.Refusal
import QueryChain.Proofs.Database.Builder
import QueryChain.Proofs.Database.Outcome
import QueryChain.Proofs.Database.Session
import QueryChain.Proofs.Engine.Discretion
import QueryChain.Proofs.Engine.Interpolation
import QueryChain.Proofs.Engine.Keyword
import QueryChain.Proofs.Engine.Lifecycle
import QueryChain.Proofs.Engine.Row
import QueryChain.Proofs.Engine.TableName
import QueryChain.Proofs.Engine.Transaction
import QueryChain.Proofs.Execution.Action
import QueryChain.Proofs.Execution.Alike
import QueryChain.Proofs.Execution.Wrapper
import QueryChain.Proofs.Log.Identity
import QueryChain.Proofs.Log.Past
import QueryChain.Proofs.Log.Supply
import QueryChain.Proofs.Placeholder.Marker
import QueryChain.Proofs.Placeholder.Occurrence
import QueryChain.Proofs.Placeholder.Scan
import QueryChain.Proofs.Placeholder.Style
import QueryChain.Proofs.Schema.Assignment
import QueryChain.Proofs.Schema.Condition
import QueryChain.Proofs.Schema.Constructed
import QueryChain.Proofs.Schema.Operations
import QueryChain.Proofs.Settings.ConflictTarget
import QueryChain.Proofs.Sorting.Total
import QueryChain.Proofs.Statement.Alphabet
import QueryChain.Proofs.Statement.Compile
import QueryChain.Proofs.Statement.Determined
import QueryChain.Proofs.Statement.Grammar
import QueryChain.Proofs.Statement.Interference
import QueryChain.Proofs.Statement.Layout
import QueryChain.Proofs.Statement.Lockstep
import QueryChain.Proofs.Statement.Marker
import QueryChain.Proofs.Statement.Matching
import QueryChain.Proofs.Statement.Name
import QueryChain.Proofs.Statement.NameList
import QueryChain.Proofs.Statement.Numbering
import QueryChain.Proofs.Statement.Piece
import QueryChain.Proofs.Statement.ReadBack
import QueryChain.Proofs.Statement.Refusal
import QueryChain.Proofs.Statement.Translation
import QueryChain.Proofs.Statement.Verbatim
import QueryChain.Proofs.Statement.Where
import QueryChain.Proofs.Template.Parts
import QueryChain.Proofs.Value.Fields
import QueryChain.Schema.Record
import QueryChain.Settings.File
import QueryChain.Settings.Store
import QueryChain.Statement.Check
import QueryChain.Statement.Loose
import QueryChain.Value.Spelling
