import RecordMapper.Connection.Scripted
import RecordMapper.Postgres.Scripted
import RecordMapper.Proofs.Assembly.Leaves
import RecordMapper.Proofs.Assembly.Nesting
import RecordMapper.Proofs.Assembly.MissingConjunction
import RecordMapper.Proofs.Cast.BigInteger
import RecordMapper.Proofs.Placeholder.Statements
import RecordMapper.Proofs.Query.Reading
import RecordMapper.Repository
import RecordMapper.Workspace
import RecordMapper.Manager.InPlace
import RecordMapper.Proofs.Manager.Save
import RecordMapper.Proofs.Manager.WholeKey
import RecordMapper.Proofs.Workspace.Written
import RecordMapper.Proofs.Json.Number
import RecordMapper.Proofs.Json.Members
import RecordMapper.Proofs.Json.Text
import RecordMapper.Proofs.Column.Form
import RecordMapper.Proofs.RowImage.RoundTrip
import RecordMapper.Proofs.RowImage.Coherence
import RecordMapper.Proofs.Statement.Undisclosed
import RecordMapper.Proofs.Repository.ActiveQuery
import RecordMapper.Proofs.Identifier.Grammar
import RecordMapper.Proofs.Cast.Whole
import RecordMapper.Proofs.Json.Nesting
import RecordMapper.Proofs.Column.Stored
import RecordMapper.Proofs.Postgres.JsonColumn
import RecordMapper.Proofs.Record.Hydration
import RecordMapper.Proofs.Manager.SaveAgain
import RecordMapper.Proofs.Cast.LeadingInteger
import RecordMapper.Proofs.Postgres.IntegerColumn
import RecordMapper.Schema.InPlace
import RecordMapper.Proofs.Schema.Built
import RecordMapper.Proofs.Manager.StatementLog
import RecordMapper.Proofs.Event.ClippedSql
import RecordMapper.Proofs.Placeholder.Regions
import RecordMapper.Proofs.Scalar.Readings
import RecordMapper.Proofs.Scalar.StringLiteral
import RecordMapper.Proofs.Number.Rounding
import RecordMapper.Proofs.Number.DecimalText
import RecordMapper.Number.DecimalScan
import RecordMapper.Cast.InPlace
import RecordMapper.Proofs.Cast.LeadingNumber
