import Marketfeed.Analytics.BubbleChains
import Marketfeed.Analytics.BubbleThreshold
import Marketfeed.Analytics.Finalize
import Marketfeed.Analytics.Levels
import Marketfeed.Analytics.ValueArea
import Marketfeed.Binance.FuturesBook
import Marketfeed.Binance.SpotBridge
import Marketfeed.Book.Depth
import Marketfeed.Book.Drain
import Marketfeed.Book.Transaction
import Marketfeed.Daemon.FanOut
import Marketfeed.Daemon.SinkWorker
import Marketfeed.Engine.Rolling
import Marketfeed.Engine.Shutdown
import Marketfeed.Engine.Subscription
import Marketfeed.Engine.ValidBooks
import Marketfeed.Engine.Withdrawal
import Marketfeed.Gemini.Snapshots
import Marketfeed.Pulse.Coverage
import Marketfeed.Pulse.Cursor
import Marketfeed.Pulse.Dwell
import Marketfeed.Pulse.Recovery
import Marketfeed.Recording.Checksum
import Marketfeed.Recording.Endpoint
import Marketfeed.Recording.Flush
import Marketfeed.Recording.Handle
import Marketfeed.Replay.Accounting
import Marketfeed.Sinks.Forward
import Marketfeed.Sinks.SpillTorn
import Marketfeed.View.Dom
import Marketfeed.View.Pages
