import IfaceMonitor.Proofs.Check.Backlogs
import IfaceMonitor.Proofs.Check.EffectiveValues
import IfaceMonitor.Proofs.Decimal.Magnitude
import IfaceMonitor.Proofs.Rate.Measurement

namespace IfaceMonitor
open Rounding Float.Model

def aboveHundred : Float := 100.00000000000001

theorem magnitude_zero : Magnitude (0.0 : Float).toModel.unpack 0 :=
  .zero .positive

theorem magnitude_aboveHundred :
    Magnitude aboveHundred.toModel.unpack
      (((7036874417766401 : ℕ) * 2 ^ (-46 : ℤ) : ℚ) : WithTop ℚ) :=
  .finite (by decide) ⟨by decide, by decide, Or.inr (by decide)⟩ (by decide)

namespace Packets

variable {v total : Float} {x y : WithTop ℚ}

theorem share_le (h : Magnitude v.toModel.unpack x) (h' : Magnitude total.toModel.unpack y)
    (part : x ≤ y) (finite : (v * 100.0).isFinite = true) : share v total ≤ aboveHundred := by
  rw [share]
  split
  · exact (le_iff_magnitude magnitude_zero magnitude_aboveHundred).2 magnitude_aboveHundred.nonneg
  · next divisor =>
    have nonzero : y ≠ 0 := by
      rintro rfl
      exact divisor (beq_zero_of_magnitude h')
    have hundred : ((7036874417766400 : ℕ) * 2 ^ (-46 : ℤ) : ℚ) = (100 : ℕ) := by norm_num
    obtain ⟨n, p, rfl, product, fraction⟩ :=
      magnitude_mul_le h (by decide) rfl (by norm_num) hundred finite
    have bound (q : ℚ) (same : y = q) : p ≤ (7036874417766401 : ℕ) * 2 ^ (-46 : ℤ) * q := by
      rw [same] at part h'
      have less : n ≤ q := by exact_mod_cast part
      have nonneg : 0 ≤ q := by exact_mod_cast h'.nonneg
      calc p ≤ n * (100 : ℕ) * (1 + 2 ^ (-53 : ℤ)) := fraction
        _ ≤ q * (100 : ℕ) * (1 + 2 ^ (-53 : ℤ)) := by gcongr
        _ = (100 : ℕ) * (1 + 2 ^ (-53 : ℤ)) * q := by ring
        _ ≤ (7036874417766401 : ℕ) * 2 ^ (-46 : ℤ) * q :=
          mul_le_mul_of_nonneg_right (by norm_num) nonneg
    obtain ⟨z, quotient, bounded⟩ :=
      magnitude_div_le product h' nonzero (by norm_num) (by norm_num) (by norm_num) bound
    exact (le_iff_magnitude quotient magnitude_aboveHundred).2 bounded

theorem totalRate_eq_some {a b : Option AveragedRate} :
    totalRate [a, b] = some total ↔ ∃ first second, a = some first ∧ b = some second ∧
      total = 0.0 + first.rate + second.rate := by
  cases a <;> cases b <;> simp [totalRate, eq_comm]

theorem nonUnicast_ofCounters (counters : PerCounter (Option AveragedRate))
    (direction : Direction) :
    (ratesIn (.ofCounters counters) direction).nonUnicast =
      sumIfBoth .add (ratesIn (.ofCounters counters) direction).multicast
        (ratesIn (.ofCounters counters) direction).broadcast := by
  cases direction <;> rfl

theorem rate_le_reference {counters : PerCounter (Option AveragedRate)} {direction : Direction}
    {kind : PacketKind} {rate : AveragedRate} {reference : Float}
    (kinds : kind = .multicast ∨ kind = .broadcast ∨ kind = .unicast)
    (regular : ∀ kind rate, (ratesIn (.ofCounters counters) direction).get kind = some rate →
      ∃ x, Magnitude rate.rate.toModel.unpack x)
    (present : (ratesIn (.ofCounters counters) direction).get kind = some rate)
    (known : (ratesIn (.ofCounters counters) direction).reference kind = some reference) :
    ∃ x y,
      Magnitude rate.rate.toModel.unpack x ∧ Magnitude reference.toModel.unpack y ∧ x ≤ y := by
  have sum : totalRate [(ratesIn (.ofCounters counters) direction).unicast,
      (ratesIn (.ofCounters counters) direction).nonUnicast] =
        some reference := by
    rcases kinds with rfl | rfl | rfl <;> exact known
  rw [totalRate_eq_some, nonUnicast_ofCounters] at sum
  obtain ⟨unicast, _, hu, others, rfl⟩ := sum
  obtain ⟨multicast, broadcast, hm, hb, rfl⟩ := sumIfBoth_eq_some.1 others
  obtain ⟨xu, hxu⟩ := regular .unicast unicast hu
  obtain ⟨xm, hxm⟩ := regular .multicast multicast hm
  obtain ⟨xb, hxb⟩ := regular .broadcast broadcast hb
  obtain ⟨xn, nonUnicast, multicast_le, broadcast_le⟩ := magnitude_add hxm hxb
  obtain ⟨x0, first, -, unicast_le⟩ := magnitude_add magnitude_zero hxu
  obtain ⟨y, whole, first_le, nonUnicast_le⟩ := magnitude_add first nonUnicast
  rcases kinds with rfl | rfl | rfl
  · obtain rfl := Option.some.inj (hm.symm.trans present)
    exact ⟨xm, y, hxm, whole, multicast_le.trans nonUnicast_le⟩
  · obtain rfl := Option.some.inj (hb.symm.trans present)
    exact ⟨xb, y, hxb, whole, broadcast_le.trans nonUnicast_le⟩
  · obtain rfl := Option.some.inj (hu.symm.trans present)
    exact ⟨xu, y, hxu, whole, unicast_le.trans first_le⟩

end Packets

def PacketKind.counter : Direction → PacketKind → Counter
  | .output, errors => .outErr
  | .output, discards => .outDisc
  | .output, multicast => .outMcast
  | .output, broadcast => .outBcast
  | .output, unicast => .outUcast
  | _, errors => .inErr
  | _, discards => .inDisc
  | _, multicast => .inMcast
  | _, broadcast => .inBcast
  | _, unicast => .inUcast

theorem Packets.ratesIn_get (rates : TrafficRates) (direction : Direction) (kind : PacketKind) :
    (ratesIn rates direction).get kind = rates.counters.get (kind.counter direction) := by
  cases direction <;> cases kind <;> rfl

theorem ReportedRate.reference_of_gauge {c : TrafficCheck} {settings : CheckSettings}
    {rates : TrafficRates} {direction : Direction} {kind : PacketKind} {g : Gauge}
    {reference : Float} (gauged : (packets direction kind).gauge? c settings rates = some g)
    (percent : g.reference = some reference) :
    (Packets.ratesIn rates direction).reference kind = some reference := by
  simp only [gauge?] at gauged
  split at gauged
  · cases gauged
    cases percent
  · cases gauged
    cases percent
  · obtain ⟨known, same, rfl⟩ := Option.map_eq_some_iff.1 gauged
    rw [same, Option.some.inj percent]

namespace Measured
variable {i : Interface} {r : PlainRates} (time : Float) (averaging : Averaging)
  (store : SampleStore)

theorem measure_magnitude (ready : i.traffic = .rates r)
    (regular : ∀ c q, r.get c = some q → q.isFinite = true ∧ 0.0 ≤ q) {c : Counter}
    {rate : AveragedRate}
    (present : (measure i time averaging store).1.rates.counters.get c = some rate) :
    ∃ x, Magnitude rate.rate.toModel.unpack x := by
  have raw := measure_raw i time averaging store c
  rw [present, rawRates, ready] at raw
  exact magnitude_of_nonneg (regular c rate.rate raw.symm).2

theorem measure_unaveraged {c : Counter} {rate : AveragedRate}
    (present : (measure i time averaging store).1.rates.counters.get c = some rate)
    (unaveraged : averaging.backlogOf c = none) :
    rate.average = none := by
  have averaged := measure_averagedOver i time averaging store (.counter c) rate present
  rw [Averaging.backlogOfRate_counter, unaveraged] at averaged
  exact Option.map_eq_none_iff.1 averaged

end Measured

/-- In every cycle on an interface with ready rates, all of them finite and not negative, whatever
the cycles before left in the store: a rate of multicast, broadcast or unicast packets that is
judged in percent of a reference is compared as at most a hundred, up to the last place, if it has
no average or if its average is from zero to the reference, and if a hundred times it is still
finite. Unicast packets never have an average, and the others have none without a backlog for
them. -/
theorem packet_share_le {i : Interface} {r : PlainRates} (ready : i.traffic = .rates r)
    (regular : ∀ c q, r.get c = some q → q.isFinite = true ∧ 0.0 ≤ q) (c : TrafficCheck)
    (settings : CheckSettings) (time : Float) (averaging : Averaging) (store : SampleStore)
    {direction : Direction} {kind : PacketKind}
    (kinds : kind = .multicast ∨ kind = .broadcast ∨ kind = .unicast) {rate : AveragedRate}
    {g : Gauge} {reference : Float}
    (present : (ReportedRate.packets direction kind).rate?
      (Measured.measure i time averaging store).1.rates = some rate)
    (gauged : (ReportedRate.packets direction kind).gauge? c settings
      (Measured.measure i time averaging store).1.rates = some g)
    (percent : g.reference = some reference) :
    (rate.average = none ∨ 0.0 ≤ rate.effective ∧
      rate.effective ≤ reference → (rate.effective * 100.0).isFinite = true →
        g.measured rate.effective ≤ aboveHundred) ∧
      (kind = .unicast ∨ averaging.broadcastMulticast = none → rate.average = none) := by
  have known := ReportedRate.reference_of_gauge gauged percent
  rw [ReportedRate.rate?] at present
  constructor
  · intro bounded finite
    rw [Gauge.measured, percent]
    rw [Measured.measure_rates_eq] at present known
    have regular' (kind : PacketKind) (rate : AveragedRate)
        (present :
          (Packets.ratesIn (.ofCounters (Measured.measure i time averaging store).1.rates.counters)
            direction).get kind = some rate) :
        ∃ x, Magnitude rate.rate.toModel.unpack x := by
      rw [Packets.ratesIn_get] at present
      exact Measured.measure_magnitude time averaging store ready regular present
    obtain ⟨x, y, own, whole, part⟩ := Packets.rate_le_reference kinds regular' present known
    rcases bounded with unaveraged | ⟨nonneg, within⟩
    · have raw : rate.effective = rate.rate := by rw [AveragedRate.effective, unaveraged]
      rw [raw] at finite ⊢
      exact Packets.share_le own whole part finite
    · obtain ⟨z, average⟩ := magnitude_of_nonneg nonneg
      exact Packets.share_le average whole ((le_iff_magnitude average whole).1 within) finite
  · intro either
    rw [Packets.ratesIn_get] at present
    refine Measured.measure_unaveraged time averaging store present ?_
    rcases either with rfl | unaveraged
    · cases direction <;> rfl
    · rcases kinds with rfl | rfl | rfl
      · cases direction <;> exact unaveraged
      · cases direction <;> exact unaveraged
      · cases direction <;> rfl

def multicastRates (multicast : Float) : PlainRates :=
  { PerCounter.missing with inUcast := some 0.0, inMcast := some multicast, inBcast := some 0.0 }

def multicastPort (multicast : Float) : Interface :=
  ⟨bondAttributes "1" .up, .rates (multicastRates multicast)⟩

def shareSettings : CheckSettings :=
  { CheckSettings.standard with
    multicast := some ⟨none, none, some ⟨.percent, ⟨101.0, 102.0⟩⟩⟩ }

def shareCheck : TrafficCheck :=
  Check.trafficCheck none shareSettings ⟨none, none, none⟩

theorem multicastRates_regular {multicast : Float} (finite : multicast.isFinite = true)
    (nonneg : 0.0 ≤ multicast) (c : Counter) (q : Float)
    (present : (multicastRates multicast).get c = some q) : q.isFinite = true ∧ 0.0 ≤ q := by
  have none : (0.0 : Float).isFinite = true ∧ (0.0 : Float) ≤ 0.0 := by decide
  cases c <;> cases present
  · exact none
  · exact ⟨finite, nonneg⟩
  · exact none

theorem multicast_share_without_average :
    ∃ rate g,
      (ReportedRate.packets .input .multicast).rate?
          (Measured.measure (multicastPort 10.0) 5.0 ⟨none, none⟩ .empty).1.rates = some rate ∧
        (ReportedRate.packets .input .multicast).gauge? shareCheck shareSettings
          (Measured.measure (multicastPort 10.0) 5.0 ⟨none, none⟩ .empty).1.rates = some g ∧
        rate.effective = 10.0 ∧ g.reference = some 10.0 ∧
          g.measured rate.effective ≤ aboveHundred := by
  have regular :
      ∀ c q, (multicastRates 10.0).get c = some q → q.isFinite = true ∧ 0.0 ≤ q :=
    multicastRates_regular (by decide) (by decide)
  have present : (ReportedRate.packets .input .multicast).rate?
      (Measured.measure (multicastPort 10.0) 5.0 ⟨none, none⟩ .empty).1.rates =
        some ⟨10.0, none⟩ := rfl
  have gauged : (ReportedRate.packets .input .multicast).gauge? shareCheck shareSettings
      (Measured.measure (multicastPort 10.0) 5.0 ⟨none, none⟩ .empty).1.rates =
        some ⟨some 10.0, some ⟨101.0, 102.0⟩, none, Quantity.packetShare⟩ := rfl
  have bounded :=
    packet_share_le rfl regular shareCheck shareSettings 5.0 ⟨none, none⟩ .empty
      (Or.inl rfl) present gauged rfl
  exact ⟨_, _, present, gauged, rfl, rfl, bounded.1 (Or.inl rfl) rfl⟩

theorem multicast_share_after_burst :
    (∀ c q, (multicastRates 100.0).get c = some q ∨ (multicastRates 10.0).get c = some q →
      q.isFinite = true ∧ 0.0 ≤ q) ∧
      ∃ rate g,
        (ReportedRate.packets .input .multicast).rate?
          (Measured.measure (multicastPort 10.0) 5.0 ⟨none, some 5⟩
            (Measured.measure (multicastPort 100.0) 5.0 ⟨none, some 5⟩ .empty).2).1.rates =
          some rate ∧
        (ReportedRate.packets .input .multicast).gauge? shareCheck shareSettings
          (Measured.measure (multicastPort 10.0) 5.0 ⟨none, some 5⟩
            (Measured.measure (multicastPort 100.0) 5.0 ⟨none, some 5⟩ .empty).2).1.rates =
          some g ∧
        g.measured rate.effective = 1000.0 ∧ ¬g.measured rate.effective ≤ aboveHundred := by
  refine ⟨?_, _, _, rfl, rfl, rfl, by decide⟩
  rintro c q (present | present)
  · exact multicastRates_regular (by decide) (by decide) c q present
  · exact multicastRates_regular (by decide) (by decide) c q present

end IfaceMonitor
