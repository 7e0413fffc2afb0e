import IfaceMonitor.Check.Judgement
import IfaceMonitor.Config.Settings
import IfaceMonitor.Quantity
import IfaceMonitor.Rate.Averaged

namespace IfaceMonitor

namespace Packets

def totalRate (rates : List (Option AveragedRate)) : Option Float :=
  rates.foldlM (fun total rate => rate.map fun r => total + r.rate) 0.0

structure Checked where
  rate : AveragedRate
  level : Option PacketLimit
  title : String
  metric : String
  reference : Option Float

def label (direction : Direction) (c : Checked) : String :=
  let base := c.title ++ " " ++ direction.name
  match c.rate.average with
  | some a => base ++ " average " ++ toString a.backlog ++ "min"
  | none => base

/-- A value in percent of a reference; of no packets at all nothing is a share. -/
def share (value reference : Float) : Float :=
  if reference == 0.0 then 0.0 else value * 100.0 / reference

def judge (direction : Direction) (c : Checked) : Option (State × String × Option Thresholds) :=
  let value := c.rate.effective
  let label := label direction c
  match c.level with
  | none =>
    let (state, text) := assess value none none Quantity.packetRate label
    some (state, text, none)
  | some ⟨.absolute, levels⟩ =>
    let (state, text) := assess value (some levels.thresholds) none Quantity.packetRate label
    some (state, text, PacketLimit.thresholdsFor ⟨.absolute, levels⟩ none)
  | some ⟨.percent, levels⟩ =>
    c.reference.map fun reference =>
      let (state, text) :=
        assess (share value reference) (some levels.thresholds) none Quantity.packetShare label
      (state, text, PacketLimit.thresholdsFor ⟨.percent, levels⟩ (some reference))

def entries (direction : Direction) (c : Checked) : List Entry :=
  match judge direction c with
  | none => []
  | some (state, text, thresholds) =>
    [.result (.notice state text),
      .metric ((Metric.plain (direction.name ++ c.metric) c.rate.rate).withLevels thresholds)]

def nonUnicastEntries (direction : Direction) (levels : Option LevelPair) (rate : AveragedRate) :
    List Entry :=
  let upper := levels.map LevelPair.thresholds
  let (state, text) :=
    assess rate.rate upper none Quantity.packetRate ("Non-unicast " ++ direction.name)
  [.result (.notice state text),
    .metric ((Metric.plain (direction.name ++ "nucast") rate.rate).withLevels upper)]

structure PacketRates where
  unicast : Option AveragedRate
  multicast : Option AveragedRate
  broadcast : Option AveragedRate
  nonUnicast : Option AveragedRate
  discards : Option AveragedRate
  errors : Option AveragedRate

def incoming (r : TrafficRates) : PacketRates where
  unicast := r.counters.inUcast
  multicast := r.counters.inMcast
  broadcast := r.counters.inBcast
  nonUnicast := r.inNonUnicast
  discards := r.counters.inDisc
  errors := r.counters.inErr

def outgoing (r : TrafficRates) : PacketRates where
  unicast := r.counters.outUcast
  multicast := r.counters.outMcast
  broadcast := r.counters.outBcast
  nonUnicast := r.outNonUnicast
  discards := r.counters.outDisc
  errors := r.counters.outErr

def checkedRates (direction : Direction) (settings : CheckSettings) (r : PacketRates) :
    List Checked :=
  let successful := totalRate [r.unicast, r.nonUnicast]
  let level := fun (levels : Option PacketLimits) => levels.bind (·.get direction)
  let checked := fun rate levels title metric reference =>
    rate.map fun rate => { rate, level := level levels, title, metric, reference : Checked }
  [checked r.errors settings.errors "Errors" "err" (totalRate [r.unicast, r.nonUnicast, r.errors]),
    checked r.discards settings.discards "Discards" "disc"
      (totalRate [r.unicast, r.nonUnicast, r.discards]),
    checked r.multicast settings.multicast "Multicast" "mcast" successful,
    checked r.broadcast settings.broadcast "Broadcast" "bcast" successful,
    checked r.unicast settings.unicast "Unicast" "ucast" successful].filterMap id

def directionEntries (direction : Direction) (settings : CheckSettings) (r : PacketRates) :
    List Entry :=
  (checkedRates direction settings r).flatMap (entries direction)
    ++ r.nonUnicast.toList.flatMap (nonUnicastEntries direction settings.nonUnicast)

def report (settings : CheckSettings) (rates : TrafficRates) : List Entry :=
  directionEntries .input settings (incoming rates) ++
    directionEntries .output settings (outgoing rates)

end Packets

end IfaceMonitor
