import ConfigCenter.Base.Table
import ConfigCenter.Base.Run
import ConfigCenter.Base.Transaction
import ConfigCenter.Base.Interleaving
import ConfigCenter.Base.Program
import ConfigCenter.Base.Lockstep
import ConfigCenter.Base.Provenance
import ConfigCenter.Base.Journal
import ConfigCenter.Base.Paging
import ConfigCenter.Base.Observation
import ConfigCenter.Base.Unwinding
import ConfigCenter.Base.Fifo
import ConfigCenter.Base.KeyedSteps
import ConfigCenter.Base.Chain
import ConfigCenter.Base.Text
import ConfigCenter.Base.SqlText
import ConfigCenter.Base.SqlSyntax
import ConfigCenter.Base.SqlDatabase
import ConfigCenter.Base.ResourcePool
import ConfigCenter.Base.ResourceUse
import ConfigCenter.Base.ResourceTrace
import ConfigCenter.Base.Cascade
import ConfigCenter.Base.Search
import ConfigCenter.Base.Cursor
import ConfigCenter.Base.Document
import ConfigCenter.Base.Settings
import ConfigCenter.Base.UnpaddedDigits
import ConfigCenter.Storage.DataTypes
import ConfigCenter.Storage.Database
import ConfigCenter.Storage.SqliteConfigStore
import ConfigCenter.Storage.Calls
import ConfigCenter.Storage.Ledger
import ConfigCenter.Storage.Effects
import ConfigCenter.Storage.Transactions
import ConfigCenter.Storage.History
import ConfigCenter.Storage.AuditLog
import ConfigCenter.Storage.VersionHistory
import ConfigCenter.Storage.RollbackHistory
import ConfigCenter.Storage.KeyIsolation
import ConfigCenter.Storage.Linearizability
import ConfigCenter.Storage.NamespaceManager
import ConfigCenter.Storage.NamespaceDeletion
import ConfigCenter.Storage.Registration
import ConfigCenter.Storage.ManagerRuns
import ConfigCenter.Storage.RegistryHistory
import ConfigCenter.Storage.Inheritance
import ConfigCenter.Storage.ReadPaths
import ConfigCenter.Storage.FailedWrites
import ConfigCenter.Storage.MysqlConnection
import ConfigCenter.Storage.MysqlConfigStore
import ConfigCenter.Storage.MysqlOperations
import ConfigCenter.Storage.ConcurrentUpdates
import ConfigCenter.Storage.SqlStatements
import ConfigCenter.Storage.SqlRecords
import ConfigCenter.Storage.MysqlConnectionPool
import ConfigCenter.Storage.PoolConservation
import ConfigCenter.Storage.PoolExhaustion
import ConfigCenter.Storage.PoolTransactions
import ConfigCenter.Storage.ConnectionString
import ConfigCenter.Storage.MysqlRecords
import ConfigCenter.Storage.MysqlDeletions
import ConfigCenter.Storage.Backends
import ConfigCenter.Storage.BackendCoupling
import ConfigCenter.Storage.BackendAgreement
import ConfigCenter.Storage.ClientView
import ConfigCenter.Storage.MysqlPublish
import ConfigCenter.Storage.PageWindows
import ConfigCenter.Config.ConfigParser
import ConfigCenter.Config.Settings
import ConfigCenter.Config.ConfigFile
import ConfigCenter.Auth.UserManager
import ConfigCenter.Auth.Accounts
import ConfigCenter.Publish.PublishEngine
import ConfigCenter.Publish.Publication
import ConfigCenter.Publish.ReleaseSequence
import ConfigCenter.Publish.DraftDiscard
import ConfigCenter.Publish.Approvals
import ConfigCenter.Publish.ApprovalQueue
import ConfigCenter.Publish.Rollout
import ConfigCenter.Publish.DraftOrder
import ConfigCenter.Publish.ReleaseRuleEngine
import ConfigCenter.Subscription.NotificationChannel
import ConfigCenter.Subscription.NamespaceIsolation
import ConfigCenter.Subscription.Delivery
import ConfigCenter.Subscription.CatchUp
import ConfigCenter.Subscription.LongPolling
import ConfigCenter.Subscription.ThrowingCallbacks
import ConfigCenter.Server.Json
import ConfigCenter.Server.Routing
import ConfigCenter.Server.PathParam
import ConfigCenter.Server.HttpSession
import ConfigCenter.Server.HttpRequests
import ConfigCenter.Server.GrpcService
import ConfigCenter.Server.HandlerPrograms
import ConfigCenter.Server.ConcurrentRequests
import ConfigCenter.Server.PublishedValues
import ConfigCenter.Server.RequestTrails
import ConfigCenter.Server.ServerBackends
import ConfigCenter.Server.DraftIsolation
import ConfigCenter.Server.SetRequests
import ConfigCenter.Server.Deletion
import ConfigCenter.Server.ReleaseHistory
import ConfigCenter.Server.Listings
import ConfigCenter.Server.NamespaceIds
import ConfigCenter.Sdk.ConfigClient
import ConfigCenter.Sdk.CacheIsolation
import ConfigCenter.Sdk.CacheLoad
import ConfigCenter.Sdk.CacheRoundTrip
