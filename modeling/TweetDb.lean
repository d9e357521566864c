import TweetDb.Transfer.Workers
import TweetDb.Search.Queue
import TweetDb.Search.Fencing
import TweetDb.Search.Documents
import TweetDb.Search.IndexWorkers
import TweetDb.Relational.Select
import TweetDb.Tweet.RelationSync
import TweetDb.Tweet.Snapshots
import TweetDb.Tweet.VersionHistory
import TweetDb.Relational.Upsert
import TweetDb.Tweet.Fill
import TweetDb.Tweet.FillLaw
import TweetDb.Transfer.Source
import TweetDb.Transfer.Enqueue
import TweetDb.Transfer.Common
import TweetDb.Transfer.Download
import TweetDb.Transfer.Multipart
import TweetDb.Transfer.SequentialUpload
import TweetDb.Transfer.RangeUpload
import TweetDb.Transfer.Upload
import TweetDb.Submit.Contract
import TweetDb.Submit.Validate
import TweetDb.Submit.Convert
import TweetDb.Submit.Prepare
import TweetDb.Submit.References
import TweetDb.Relational.Agree
import TweetDb.Search.Targets
import TweetDb.Tweet.Stats
import TweetDb.Submit.Execute
import TweetDb.Tweet.Independence
import TweetDb.Tweet.RelationIndependence
import TweetDb.Submit.TwoRuns
import TweetDb.Transfer.Independence
import TweetDb.Transfer.RangeProgress
import TweetDb.Transfer.Cleanup
import TweetDb.Tweet.StatsHistory
import TweetDb.Auth.PendingLogin
import TweetDb.Auth.Revocation
import TweetDb.Relational.ConcurrentUpsert
import TweetDb.Submit.Dictionaries
import TweetDb.Api.Common
import TweetDb.Api.Tweets
import TweetDb.Api.SearchTweets
import TweetDb.Submit.PrepareLoop
import TweetDb.Submit.Results
import TweetDb.Submit.Provenance
import TweetDb.Submit.Alignment
import TweetDb.Json.Value
import TweetDb.Submit.Deserialize
import TweetDb.Submit.Checks
import TweetDb.Submit.Lookups
import TweetDb.Submit.Valid
import TweetDb.Submit.Converted
import TweetDb.Submit.Stored
import TweetDb.Query.Build
import TweetDb.Query.Fetch
import TweetDb.Query.TextRoundTrip
import TweetDb.Submit.Repeat
import TweetDb.Query.UserRoundTrip
import TweetDb.Query.MediaRoundTrip
import TweetDb.Query.TweetRoundTrip
import TweetDb.Query.Resubmit
import TweetDb.Auth.Accounts
import TweetDb.Auth.Server
import TweetDb.Auth.Binding
import TweetDb.Auth.Lockout
import TweetDb.Auth.Lifetime
import TweetDb.Relational.BiMap
import TweetDb.Submit.DictionaryCache
import TweetDb.Leasing.WellFormed
import TweetDb.Transfer.RowInvariants
import TweetDb.Search.RowInvariants
import TweetDb.Queues
import TweetDb.Transfer.AdminSource
import TweetDb.Submit.RelationReport
import TweetDb.Search.UserQuery
import TweetDb.Api.SearchUsers
import TweetDb.Api.AuthorFilters
import TweetDb.Search.QueryText
import TweetDb.Search.PrefixSearch
import TweetDb.Submit.Duplicates
import TweetDb.Relational.Reports
import TweetDb.Tweet.ChangeReports
import TweetDb.Submit.Ranges
import TweetDb.Relational.Batches
import TweetDb.Submit.PlaceBatches
import TweetDb.Fallible
import TweetDb.Submit.Coverage
import TweetDb.Query.Collected
import TweetDb.Query.Batch
import TweetDb.Query.LineUp
import TweetDb.Query.Coverage
import TweetDb.Query.StyleIds
import TweetDb.Query.StoredText
import TweetDb.Submit.StatusLookups
import TweetDb.Submit.TimedStages
import TweetDb.Transition.Loop
import TweetDb.Intervals.Tiling
import TweetDb.Intervals.Cutting
import TweetDb.Browse.TweetText
import TweetDb.Browse.RenderedText
import TweetDb.Browse.HiddenMedia
import TweetDb.Transfer.RangePartition
import TweetDb.Transfer.Rechunk
import TweetDb.Transfer.ObjectOwners
import TweetDb.Browse.SubmittedText
import TweetDb.Browse.TimelinePage
import TweetDb.Search.Backfill
import TweetDb.Submit.Independence
import TweetDb.Submit.StageRuns
import TweetDb.Submit.BatchRuns
import TweetDb.Submit.MediaRuns
import TweetDb.Submit.TweetRuns
import TweetDb.Submit.CallRuns
import TweetDb.Submit.ConversionRuns
import TweetDb.Submit.OneItem
import TweetDb.Submit.BadItem
import TweetDb.Submit.Content
import TweetDb.Submit.IndexRuns
import TweetDb.Submit.Retry
import TweetDb.Query.Known
import TweetDb.Query.Ensured
import TweetDb.Query.Found
import TweetDb.Paging.Keyset
import TweetDb.Api.ListEndpoint
import TweetDb.Api.Listings
import TweetDb.Submit.Startup
