import RailWatch.Main
import RailWatch.Proofs.Journey.Acceptance
import RailWatch.Proofs.Journey.Conversion
import RailWatch.Proofs.Journey.Position
import RailWatch.Proofs.Loop.Shutdown
import RailWatch.Proofs.Loop.Stream
import RailWatch.Proofs.Tracker.Polling
import RailWatch.Proofs.Tracker.WarmStart
import RailWatch.Source.FileTree
import RailWatch.Tracker.Feed
import RailWatch.Tracker.Timeline
import RailWatch.Proofs.Journey.Arrival
import RailWatch.Proofs.Polling.Width
import RailWatch.Proofs.Loop.Causes
import RailWatch.Proofs.Settings.Acceptance
import RailWatch.Proofs.Calendar.Written
import RailWatch.Proofs.Journey.Pruning
import RailWatch.Proofs.Loop.Takeover
import RailWatch.Proofs.Source.Request
import RailWatch.Proofs.Source.Loading
import RailWatch.Proofs.Journey.Naming
