import TableQuery.Binary64.Nearest
import TableQuery.Config.Search
import TableQuery.Pipeline
import TableQuery.Report
import TableQuery.Proofs.Config.Declarations
import TableQuery.Proofs.Config.Nearest
import TableQuery.Proofs.Decimal.Exactness
import TableQuery.Proofs.Decimal.NormalForm
import TableQuery.Proofs.Decimal.PlainNotation
import TableQuery.Proofs.Decimal.Word
import TableQuery.Proofs.Declarative.Acceptance
import TableQuery.Proofs.Declarative.Blame
import TableQuery.Proofs.Declarative.Commas
import TableQuery.Proofs.Declarative.Delimiting
import TableQuery.Proofs.Declarative.Erasure
import TableQuery.Proofs.Declarative.Grammar
import TableQuery.Proofs.Declarative.OperatorCase
import TableQuery.Proofs.Declarative.OperatorKeys
import TableQuery.Proofs.Declarative.Overwriting
import TableQuery.Proofs.Declarative.Parsing
import TableQuery.Proofs.Declarative.Partition
import TableQuery.Proofs.Declarative.Pointing
import TableQuery.Proofs.Declarative.Printing
import TableQuery.Proofs.Declarative.Recasing
import TableQuery.Proofs.Declarative.RoundTrip
import TableQuery.Proofs.Declarative.Scanning
import TableQuery.Proofs.Declarative.Spans
import TableQuery.Proofs.Declarative.Spelling
import TableQuery.Proofs.Declarative.ViablePrefix
import TableQuery.Proofs.Declarative.Writing
import TableQuery.Proofs.Pipeline.Declarative
import TableQuery.Proofs.Pipeline.DeclaredColumns
import TableQuery.Proofs.Pipeline.Execution
import TableQuery.Proofs.Pipeline.Layout
import TableQuery.Proofs.Pipeline.Paging
import TableQuery.Proofs.Pipeline.Rest
import TableQuery.Proofs.Pipeline.Sources
import TableQuery.Proofs.Plan.Coercion
import TableQuery.Proofs.Plan.FrontEnds
import TableQuery.Proofs.Plan.Request
import TableQuery.Proofs.Query.Tiling
import TableQuery.Proofs.Rest.Decoding
import TableQuery.Proofs.Rest.Lists
import TableQuery.Proofs.Rest.Repetition
import TableQuery.Proofs.Rest.Slots
import TableQuery.Proofs.Rest.Writing
import TableQuery.Proofs.Result.Rows
import TableQuery.Proofs.Schema.History
import TableQuery.Proofs.Sql.Conjunction
import TableQuery.Proofs.Sql.Injection
import TableQuery.Proofs.Sql.LineBreaks
import TableQuery.Proofs.Sql.ResultColumns
import TableQuery.Proofs.Sql.Statement
import TableQuery.Proofs.Sql.Validity
