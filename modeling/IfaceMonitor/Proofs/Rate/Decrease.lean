import IfaceMonitor.Proofs.Decimal.Conversion
import IfaceMonitor.Proofs.Decimal.Difference
import IfaceMonitor.Proofs.Discovery.Drafts
import IfaceMonitor.Proofs.Rate.Measurement

namespace IfaceMonitor

def SeenBelow (n p : UInt64) : Prop :=
  n < p ∧ (n.toFloat == p.toFloat) = false

instance (n p : UInt64) : Decidable (SeenBelow n p) :=
  inferInstanceAs (Decidable (_ ∧ _))

variable {n p : UInt64}

theorem seenBelow_iff : SeenBelow n p ↔ n.toFloat < p.toFloat :=
  toFloat_lt_iff.symm

theorem near_of_unseen (less : n < p) (unseen : ¬SeenBelow n p) :
    2 ^ 53 ≤ n.toNat ∧ p.toNat ≤ n.toNat + 2 ^ 11 := by
  cases same : n.toFloat == p.toFloat with
  | false => exact absurd ⟨less, same⟩ unseen
  | true => exact near_of_same_double less same

section Outcome
variable {store : SampleStore} {key : String} {time before : Float} {previous : Sample}

theorem SampleStore.outcome_of_later (stored : store.get? key = some previous)
    (finite : time.isFinite = true) (later : previous.time < time) (n : UInt64) :
    store.outcome key time n =
      if n.toFloat < previous.value then .failed (.counterOverflow key previous.value n.toFloat)
      else .rate ((n.toFloat - previous.value) / (time - previous.time)) := by
  have elapsed : ¬time - previous.time ≤ 0.0 := by
    rw [Rounding.sub_le_zero_iff finite]
    exact Comparison.not_le_of_lt later
  simp only [outcome, stored, rateBetween, sampleOf, if_neg elapsed,
    Rounding.sub_lt_zero_iff (isFinite_toFloat n)]

theorem SampleStore.outcome_of_counter (stored : store.get? key = some ⟨before, p.toFloat⟩)
    (finite : time.isFinite = true) (later : before < time) (n : UInt64) :
    store.outcome key time n =
      if SeenBelow n p then .failed (.counterOverflow key p.toFloat n.toFloat)
      else .rate ((n.toFloat - p.toFloat) / (time - before)) := by
  rw [outcome_of_later stored finite later]
  exact if_congr seenBelow_iff.symm rfl rfl

end Outcome

namespace Measured
variable {i : Interface} {time before : Float} {store : SampleStore} {c : Counter}

/-- A counter is measured against the counter of an earlier sample. It has a gap if and only if it
is seen below it, and then the gap is an overflow; otherwise it has a rate. A counter that fell
unseen is at least 2^53 and fell by at most 2^11. -/
theorem overflow_iff_seenBelow (averaging : Averaging) (finite : time.isFinite = true)
    (later : before < time)
    (stored : store.get? (sampleKey c i.attributes.identity) = some ⟨before, p.toFloat⟩)
    (present : i.count? c = some n) :
    (∀ gap, (c, gap) ∈ (measure i time averaging store).1.gaps ↔
        SeenBelow n p ∧ gap =
          .failed (.counterOverflow (sampleKey c i.attributes.identity) p.toFloat n.toFloat)) ∧
      ((measure i time averaging store).1.rates.counters.get c).map (·.rate) =
        (if SeenBelow n p then none else some ((n.toFloat - p.toFloat) / (time - before))) ∧
      (n < p → ¬SeenBelow n p → 2 ^ 53 ≤ n.toNat ∧ p.toNat ≤ n.toNat + 2 ^ 11) := by
  have compared := SampleStore.outcome_of_counter stored finite later n
  refine ⟨fun gap => ?_, ?_, near_of_unseen⟩
  · rw [mem_measure_gaps_of_count i time averaging store present, compared]
    by_cases seen : SeenBelow n p
    · simp [seen, RateResult.gap?, eq_comm]
    · simp [seen, RateResult.gap?]
  · rw [measure_rate i time averaging store present, compared]
    by_cases seen : SeenBelow n p
    · simp [seen, RateResult.rate?]
    · simp [seen, RateResult.rate?]

def octetPort (n : UInt64) : Interface :=
  { Discovery.upPort "1" "eth0" none with
    traffic := .counters { PerCounter.missing with inOctets := some n } }

def octetStore (n : UInt64) : SampleStore :=
  .ofList [("in_octets.1.eth0.port 1.None", ⟨0.0, n.toFloat⟩)]

theorem overflow_of_restarted_octets :
    (octetPort 300).count? .inOctets = some 300 ∧
      (octetStore 5000).get? "in_octets.1.eth0.port 1.None" = some ⟨0.0, 5000.0⟩ ∧
      (.inOctets, .failed (.counterOverflow "in_octets.1.eth0.port 1.None" 5000.0 300.0)) ∈
        (measure (octetPort 300) 5.0 ⟨none, none⟩ (octetStore 5000)).1.gaps := by
  have stored : (octetStore 5000).get? (sampleKey .inOctets (octetPort 300).attributes.identity) =
      some ⟨0.0, (5000 : UInt64).toFloat⟩ := rfl
  have fallen :=
    overflow_iff_seenBelow ⟨none, none⟩ (by decide : (5.0 : Float).isFinite = true)
      (by decide) stored rfl
  exact ⟨rfl, stored, (fallen.1 _).2 ⟨by decide, rfl⟩⟩

theorem rate_of_lost_octet :
    9007199254740992 < (9007199254740993 : UInt64) ∧
      (octetPort 9007199254740992).count? .inOctets = some 9007199254740992 ∧
      (octetStore 9007199254740993).get? "in_octets.1.eth0.port 1.None" =
        some ⟨0.0, (9007199254740993 : UInt64).toFloat⟩ ∧
      (measure (octetPort 9007199254740992) 5.0 ⟨none, none⟩
        (octetStore 9007199254740993)).1.gaps = [] ∧
      (measure (octetPort 9007199254740992) 5.0 ⟨none, none⟩
        (octetStore 9007199254740993)).1.rates.counters.get .inOctets =
        some ⟨0.0, none⟩ :=
  ⟨by decide, rfl, rfl, rfl, rfl⟩

end Measured

end IfaceMonitor
