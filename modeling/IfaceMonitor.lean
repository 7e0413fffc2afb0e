import IfaceMonitor.CommandLine.Folder
import IfaceMonitor.Main
import IfaceMonitor.Proofs.Check.Metrics
import IfaceMonitor.Proofs.Rate.Observation
import IfaceMonitor.Proofs.Check.Lookup
import IfaceMonitor.Proofs.Cycle.Isolation
import IfaceMonitor.Proofs.Cycle.History
import IfaceMonitor.Proofs.Discovery.Drafts
import IfaceMonitor.Proofs.Discovery.Members
import IfaceMonitor.Proofs.Discovery.Uniqueness
import IfaceMonitor.Proofs.Discovery.Recall
import IfaceMonitor.Proofs.Discovery.Nodes
import IfaceMonitor.Proofs.Cycle.Independence
import IfaceMonitor.Proofs.Check.Success
import IfaceMonitor.Proofs.Cycle.Retry
import IfaceMonitor.Proofs.Rate.Repetition
import IfaceMonitor.Proofs.Check.PacketMetrics
import IfaceMonitor.Proofs.Check.InPlace
import IfaceMonitor.Proofs.Cycle.AllOrNothing
import IfaceMonitor.Proofs.Json.Record
import IfaceMonitor.Proofs.Store.Codec
import IfaceMonitor.Proofs.Cycle.Origins
import IfaceMonitor.Proofs.CommandLine.StateFile
import IfaceMonitor.Proofs.CommandLine.StoredServices
import IfaceMonitor.Proofs.Check.Shape
import IfaceMonitor.Proofs.Check.DownPorts
import IfaceMonitor.Proofs.Rate.Keys
import IfaceMonitor.Proofs.Check.ActiveNode
import IfaceMonitor.Proofs.Check.LastNode
import IfaceMonitor.Proofs.Discovery.GroupResolution
import IfaceMonitor.Proofs.Discovery.SingleItems
import IfaceMonitor.Proofs.Rate.Measurement
import IfaceMonitor.Proofs.Discovery.Padding
import IfaceMonitor.Proofs.Check.Numbered
import IfaceMonitor.Proofs.Check.Cluster
import IfaceMonitor.Proofs.Rate.GroupSums
import IfaceMonitor.Proofs.Check.Backlogs
import IfaceMonitor.Proofs.Check.EffectiveValues
import IfaceMonitor.Proofs.Check.Shares
import IfaceMonitor.Proofs.Decimal.Magnitude
import IfaceMonitor.Proofs.Decimal.Nearest
import IfaceMonitor.Proofs.Group.CounterSums
import IfaceMonitor.Proofs.Levels.Merged
import IfaceMonitor.Proofs.Check.Predictions
import IfaceMonitor.Proofs.Store.AverageRuns
import IfaceMonitor.Proofs.Decimal.Conversion
import IfaceMonitor.Proofs.Decimal.Difference
import IfaceMonitor.Proofs.Rate.Decrease
import IfaceMonitor.Proofs.Config.StateTables
import IfaceMonitor.Proofs.Config.StateMapping
import IfaceMonitor.Proofs.KernelStatistics
import IfaceMonitor.Proofs.Config.RoundTrip
import IfaceMonitor.Proofs.Link.RoundTrip
import IfaceMonitor.Proofs.Pattern.Anchored
import IfaceMonitor.Proofs.Json.Finite
import IfaceMonitor.Proofs.Group.Listing
import IfaceMonitor.Proofs.Link.HardwareAddress
import IfaceMonitor.Proofs.Quantity.Places
import IfaceMonitor.Proofs.Quantity.Scaled
