import NeoMutt.Logging.Basic
import NeoMutt.Logging.Queue
import NeoMutt.Logging.Sinks
import NeoMutt.Logging.FileSink
import NeoMutt.Logging.System
import NeoMutt.Logging.CacheLaws
import NeoMutt.Logging.QueueLaws
import NeoMutt.Logging.FileLaws
import NeoMutt.Logging.Contracts
import NeoMutt.Logging.Routes
import NeoMutt.Account.Basic
import NeoMutt.Account.Match
import NeoMutt.Account.Url
import NeoMutt.Account.Login
import NeoMutt.Logging.Safety
import NeoMutt.Account.Reuse
