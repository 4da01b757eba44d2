import FeedReader.Main
import FeedReader.Session.Loop
import FeedReader.Text.Line
import FeedReader.Text.Truncate
import FeedReader.Time.Age
import FeedReader.Proofs.Feed.Placing
import FeedReader.Proofs.Feed.Run
import FeedReader.Proofs.Feed.Growth
import FeedReader.Proofs.Feed.Step
import FeedReader.Proofs.Feed.Coherence
import FeedReader.Proofs.Feed.FocusedRow
import FeedReader.Proofs.Feed.Holding
import FeedReader.Proofs.Feed.LoadTurns
import FeedReader.Proofs.Feed.Paging
import FeedReader.Proofs.Feed.LiveUpdates
import FeedReader.Proofs.Feed.PageBlock
import FeedReader.Proofs.EventStream.Pieces
import FeedReader.Proofs.EventStream.Blocks
import FeedReader.Proofs.EventStream.LongLines
import FeedReader.Proofs.Live.Attempts
import FeedReader.Proofs.Live.Resume
import FeedReader.Proofs.Session.Changes
import FeedReader.Proofs.Session.Runs
import FeedReader.Proofs.Session.OneLoad
import FeedReader.Proofs.Session.HeldResync
import FeedReader.Proofs.Feed.OlderEnd
import FeedReader.Proofs.Session.FurtherLoads
import FeedReader.Proofs.Live.StoredId
import FeedReader.Proofs.Feed.Teardown
import FeedReader.Proofs.Feed.Attachments
import FeedReader.Proofs.Feed.ShownQueue
import FeedReader.Proofs.Feed.FailedLoads
import FeedReader.Proofs.Feed.Removal
import FeedReader.Proofs.Session.Selection
import FeedReader.Proofs.Session.NewestPage
import FeedReader.Proofs.Session.ValidSettings
import FeedReader.Proofs.Keys.OverrideOrder
import FeedReader.Proofs.Keys.HelpScreen
import FeedReader.Proofs.Url.Encoding
import FeedReader.Proofs.Url.Path
import FeedReader.Proofs.Url.Segments
import FeedReader.Proofs.Url.Host
import FeedReader.Proofs.Resource.Paths
import FeedReader.Proofs.Resource.Queries
import FeedReader.Proofs.Json.Numbers
import FeedReader.Proofs.Json.Skipping
import FeedReader.Proofs.Json.Readers
import FeedReader.Proofs.Json.Grammar
import FeedReader.Proofs.Json.Records
import FeedReader.Proofs.Json.Texts
import FeedReader.Proofs.Entry.Pages
import FeedReader.Proofs.EventStream.Restart
import FeedReader.Proofs.Live.Limit
import FeedReader.Proofs.Session.RepeatedPage
import FeedReader.Proofs.Web.Bodies
import FeedReader.Proofs.Web.Redirects
import FeedReader.Proofs.Text.Truncation
import FeedReader.Proofs.Text.Flattening
import FeedReader.Proofs.Text.EscapeSequences
import FeedReader.Proofs.Entry.Rows
import FeedReader.Proofs.Keys.OverrideMeaning
import FeedReader.Proofs.Screen.Regions
import FeedReader.Proofs.Session.AgeColumn
import FeedReader.Proofs.Session.HelpTable
import FeedReader.Proofs.Session.HelpScrolling
import FeedReader.Proofs.Keys.KeyTexts
import FeedReader.Proofs.Screen.Centering
import FeedReader.Proofs.Listing.Arrivals
import FeedReader.Proofs.Feed.FocusBounds
