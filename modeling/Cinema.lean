import Cinema.Binary64.Text
import Cinema.Binary64.Decimal
import Cinema.Provider.Url
import Cinema.Text.Wide
import Cinema.Text.Printable
import Cinema.Text.Lower
import Cinema.Text.Composed
import Cinema.Text.Direction
import Cinema.Text.Mark
import Cinema.Domain.Punycode
import Cinema.Domain.Label
import Cinema.Provider.Host
import Cinema.Json.Read
import Cinema.Json.Write
import Cinema.Json.Lenient
import Cinema.Text.Integer
import Cinema.Text.Upper
import Cinema.Calendar.Read
import Cinema.Catalog.Choice
import Cinema.Catalog.Image
import Cinema.Gateway.Header
import Cinema.Service.Error
import Cinema.Json.Bytes
import Cinema.Json.Display
import Cinema.Catalog.Normalize
import Cinema.Request.Lax
import Cinema.Request.Catalog
import Cinema.Catalog.Query
import Cinema.Calendar.Stamp
import Cinema.Reviews.Repository
import Cinema.Service.Session
import Cinema.Proofs.Service.Guards
import Cinema.Proofs.Reviews.Procedures
import Cinema.Proofs.Service.Ledger
import Cinema.Proofs.Service.ReviewSession
import Cinema.Proofs.Binary64.Overflow
import Cinema.Proofs.Catalog.RangeFaults
import Cinema.Proofs.Json.Room
import Cinema.Proofs.Catalog.QueryOutcome
import Cinema.Proofs.Service.Outcomes
import Cinema.Proofs.Service.Race
import Cinema.Proofs.Catalog.Choices
import Cinema.Proofs.Catalog.RequestQuery
import Cinema.Proofs.Catalog.Readers
import Cinema.Proofs.Calendar.Civil
import Cinema.Proofs.Calendar.Written
import Cinema.Proofs.Calendar.ReleaseDates
import Cinema.Proofs.Calendar.TimestampForm
import Cinema.Proofs.Calendar.Timestamps
import Cinema.Proofs.Reviews.Classification
import Cinema.Proofs.Reviews.StoredRows
import Cinema.Proofs.Catalog.ImageAddresses
import Cinema.Proofs.Catalog.CommonFields
import Cinema.Proofs.Text.IntegerForm
import Cinema.Proofs.Gateway.UserIds
import Cinema.Proofs.Service.StoredArguments
import Cinema.Proofs.Binary64.Unpacked
import Cinema.Proofs.Binary64.WholeDoubles
import Cinema.Proofs.Catalog.ProviderNumbers
