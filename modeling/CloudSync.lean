import CloudSync.Transactions.Program
import CloudSync.Transactions.Interleaving
import CloudSync.Transactions.Recording
import CloudSync.Transactions.Parties
import CloudSync.Tagged.Cell
import CloudSync.Rust.Text
import CloudSync.Rust.PercentDecoding
import CloudSync.Rust.ByteOrder
import CloudSync.Rust.Timestamp
import CloudSync.Redb.Table
import CloudSync.Config
import CloudSync.AppState
import CloudSync.Database
import CloudSync.SyncApi
import CloudSync.AdminPanel
import CloudSync.Server
import CloudSync.Footprint
import CloudSync.StoredCells
import CloudSync.DataWrites
import CloudSync.PayloadHistory
import CloudSync.Scenario
import CloudSync.ShortSessions
import CloudSync.LostUpdate
import CloudSync.WriteChain
import CloudSync.CreateOnly
import CloudSync.BlobDescription
import CloudSync.TokenStore
import CloudSync.TokenWrites
import CloudSync.Revocation
import CloudSync.NamespaceRows
import CloudSync.Transactions.Sequential
import CloudSync.Transactions.TwoRuns
import CloudSync.Reachable
import CloudSync.Alignment
import CloudSync.PurgeFrame
import CloudSync.Serial
import CloudSync.TokenIndex
import CloudSync.SyncRequest
import CloudSync.SyncFrame
import CloudSync.Freeze
import CloudSync.StoredRecords
import CloudSync.Links.Mutual
import CloudSync.DeviceLinks
import CloudSync.LoginAttempts
import CloudSync.Listing
import CloudSync.TokenScope
import CloudSync.Paging.Traversal
import CloudSync.Pagination
import CloudSync.Scans
import CloudSync.Preconditions
import CloudSync.FailedWrites
import CloudSync.Deadlines
import CloudSync.Retention.Newest
import CloudSync.ConflictLog
import CloudSync.Throttle.Window
import CloudSync.LoginThrottle
import CloudSync.Transactions.Recorded
import CloudSync.InTurn
import CloudSync.Accounting.Totals
import CloudSync.NamespaceListing
import CloudSync.Accounting.Readings
import CloudSync.UsageSnapshots
import CloudSync.PatchRequests
import CloudSync.TokenUsage
import CloudSync.Timeline.Latest
import CloudSync.LastWrite
import CloudSync.Minimisation
import CloudSync.Markup.Attribute
import CloudSync.Markup.Literal
import CloudSync.Markup.Escaped
import CloudSync.InlineHandlers
import CloudSync.AbstractStore
import CloudSync.StoreContents
import CloudSync.StoreHandlers
import CloudSync.StorePromises
import CloudSync.StoreRefinement
import CloudSync.ObjectAddresses
import CloudSync.AccountWrites
import CloudSync.LastAdmin
import CloudSync.Credentials
import CloudSync.Authority
import CloudSync.Transactions.Contracts
import CloudSync.Rust.Hex
import CloudSync.Startup
import CloudSync.RecordsKept
import CloudSync.RevealedSecrets
import CloudSync.ValidRecords
import CloudSync.SealedPayloads
import CloudSync.HeadersRead
import CloudSync.Rust.Cookies
import CloudSync.Sessions
import CloudSync.AdminRecovery
import CloudSync.EndedSessions
import CloudSync.Transactions.Once
import CloudSync.AccountTurns
