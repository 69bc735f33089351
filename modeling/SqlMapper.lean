import SqlMapper.Binding
import SqlMapper.Connection.Report
import SqlMapper.Connection.Stock
import SqlMapper.Conversion
import SqlMapper.Decimal.Reader
import SqlMapper.Json.Reader
import SqlMapper.Model.Record
import SqlMapper.Orm.Session
import SqlMapper.Proofs.Accounting
import SqlMapper.Proofs.Convention
import SqlMapper.Proofs.Exactness
import SqlMapper.Proofs.Exhaustion
import SqlMapper.Proofs.Grammar
import SqlMapper.Proofs.Logging
import SqlMapper.Proofs.Members
import SqlMapper.Proofs.Saving
import SqlMapper.Proofs.TypePath
import SqlMapper.Proofs.Values
import SqlMapper.Proofs.Writing
import SqlMapper.Scalar.Untagged
import SqlMapper.Wire
import SqlMapper.Proofs.Hydration
import SqlMapper.Proofs.Arguments
