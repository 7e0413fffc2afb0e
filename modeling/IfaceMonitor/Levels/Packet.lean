import IfaceMonitor.Levels.Basic

namespace IfaceMonitor

structure PacketLimit where
  scale : LevelScale
  levels : LevelPair

def PacketLimit.decode (value : Json) : Decoded PacketLimit := do
  let fields ← value.record ["kind", "levels"]
  let scale ← Json.required fields "kind" (Json.choice [("abs", .absolute), ("perc", .percent)])
  return { scale, levels := ← Json.required fields "levels" (LevelPair.decodeOrdered .upper) }

def PacketLimit.encode (l : PacketLimit) : Json :=
  .obj [("kind", .str l.scale.name), ("levels", l.levels.encode)]

def PacketLimit.thresholdsFor (l : PacketLimit) (reference : Option Float) : Option Thresholds :=
  match l.scale with
  | .absolute => some (l.levels.times 1.0)
  | .percent => (reference.filter fun rate => rate > 0.0).map fun rate =>
    l.levels.times (rate / 100.0)

structure PacketLimits where
  input : Option PacketLimit
  output : Option PacketLimit
  both : Option PacketLimit

namespace PacketLimits

def standardErrors : PacketLimits :=
  { input := none, output := none, both := some ⟨.percent, ⟨0.01, 0.1⟩⟩ }

def get (l : PacketLimits) : Direction → Option PacketLimit
  | .input => l.input <|> l.both
  | .output => l.output <|> l.both
  | .total => l.both

def decode (value : Json) : Decoded PacketLimits := do
  let fields ← value.record ["in", "out", "both"]
  return {
    input := ← Json.withDefault fields "in" none (Json.optional PacketLimit.decode)
    output := ← Json.withDefault fields "out" none (Json.optional PacketLimit.decode)
    both := ← Json.withDefault fields "both" none (Json.optional PacketLimit.decode) }

def encode (l : PacketLimits) : Json :=
  .objOf [("in", l.input.map PacketLimit.encode), ("out", l.output.map PacketLimit.encode),
    ("both", l.both.map PacketLimit.encode)]

end PacketLimits

end IfaceMonitor
