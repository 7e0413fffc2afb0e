import IfaceMonitor.Levels.Traffic
import Mathlib.Data.List.Induction

namespace IfaceMonitor

/-- A rule for both directions applies to each of them, but not to their total. -/
def TrafficRule.AppliesTo (rule : TrafficRule) (direction : Direction) : Prop :=
  rule.direction = .only direction ∨ rule.direction = .both ∧ direction ≠ .total

instance (rule : TrafficRule) (direction : Direction) : Decidable (rule.AppliesTo direction) :=
  inferInstanceAs (Decidable (_ ∨ _))

theorem TrafficRule.covers_iff {rule : TrafficRule} {direction : Direction} :
    rule.direction.covers direction = true ↔ rule.AppliesTo direction := by
  rw [AppliesTo]
  generalize rule.direction = own
  cases own <;> cases direction <;> decide

def levelsFor (direction : Direction) (rules : List TrafficRule) : List LevelSpec :=
  (rules.filter fun rule => decide (rule.AppliesTo direction)).map (·.levels)

namespace LevelPair
variable {levels : LevelPair} {scale : LevelScale} {speed : Option Float} {unit : TrafficUnit}
  {thresholds other : Option Thresholds}

/-- Levels in bytes per second: a bit is an eighth of a byte, and a percent a hundredth of a
positive speed. Without such a speed levels in percent come to nothing. -/
inductive ResolvesTo (levels : LevelPair) (speed : Option Float) :
    LevelScale → TrafficUnit → Option Thresholds → Prop
  | bytes : levels.ResolvesTo speed .absolute .byte
      (some ⟨levels.warn * (1.0 / 1.0), levels.crit * (1.0 / 1.0)⟩)
  | bits : levels.ResolvesTo speed .absolute .bit
      (some ⟨levels.warn * (1.0 / 8.0), levels.crit * (1.0 / 8.0)⟩)
  | share (unit : TrafficUnit) (s : Float) (known : speed = some s) (positive : s > 0.0) :
      levels.ResolvesTo speed .percent unit
        (some ⟨levels.warn * (s / 100.0), levels.crit * (s / 100.0)⟩)
  | unresolved (unit : TrafficUnit) (unknown : ∀ s, speed = some s → ¬s > 0.0) :
      levels.ResolvesTo speed .percent unit none

theorem resolvesTo_thresholdsFor (levels : LevelPair) (scale : LevelScale) (speed : Option Float)
    (unit : TrafficUnit) :
    levels.ResolvesTo speed scale unit (levels.thresholdsFor scale speed unit) := by
  cases scale with
  | absolute =>
    cases unit with
    | byte => exact .bytes
    | bit => exact .bits
  | percent =>
    cases speed with
    | none => exact .unresolved unit nofun
    | some s =>
      by_cases positive : s > 0.0
      · have resolved : levels.thresholdsFor .percent (some s) unit =
            some (levels.times (s / 100.0)) := by
          simp [thresholdsFor, positive]
        rw [resolved]
        exact .share unit s rfl positive
      · have missing : levels.thresholdsFor .percent (some s) unit = none := by
          simp [thresholdsFor, positive]
        rw [missing]
        exact .unresolved unit fun _ same => Option.some.inj same ▸ positive

theorem ResolvesTo.thresholdsFor_eq (h : levels.ResolvesTo speed scale unit thresholds) :
    levels.thresholdsFor scale speed unit = thresholds := by
  cases h with
  | bytes => rfl
  | bits => rfl
  | share _ s known positive => simp [thresholdsFor, times, known, positive]
  | unresolved _ unknown =>
    cases speed with
    | none => rfl
    | some s => simp [thresholdsFor, unknown s rfl]

theorem thresholdsFor_eq_iff :
    levels.thresholdsFor scale speed unit = thresholds ↔
      levels.ResolvesTo speed scale unit thresholds := by
  constructor
  · rintro rfl
    exact resolvesTo_thresholdsFor levels scale speed unit
  · exact ResolvesTo.thresholdsFor_eq

theorem ResolvesTo.unique (h : levels.ResolvesTo speed scale unit thresholds)
    (h' : levels.ResolvesTo speed scale unit other) : thresholds = other :=
  h.thresholdsFor_eq.symm.trans h'.thresholdsFor_eq

end LevelPair

namespace LevelSpec
variable {own : List LevelSpec} {spec : LevelSpec} {bound : Bound} {speed : Option Float}
  {unit : TrafficUnit} {thresholds : Option Thresholds}

def replaces (bound : Bound) : LevelSpec → Bool
  | .fixed _ other _ => other = bound
  | .predictive _ => true

def LastFor (own : List LevelSpec) (bound : Bound) (scale : LevelScale) (levels : LevelPair) :
    Prop :=
  ∃ before after, own = before ++ .fixed scale bound levels :: after ∧
    ∀ later ∈ after, later.replaces bound = false

/-- The thresholds of a bound are those of its last levels, whether these can be resolved or not,
and missing without any. -/
def Settles (own : List LevelSpec) (bound : Bound) (speed : Option Float) (unit : TrafficUnit)
    (thresholds : Option Thresholds) : Prop :=
  (∃ scale levels, LastFor own bound scale levels ∧
      levels.ResolvesTo speed scale unit thresholds) ∨
    (∀ scale levels, ¬LastFor own bound scale levels) ∧ thresholds = none

theorem lastFor_concat {scale : LevelScale} {levels : LevelPair} :
    LastFor (own ++ [spec]) bound scale levels ↔
      spec = .fixed scale bound levels ∨
        spec.replaces bound = false ∧ LastFor own bound scale levels := by
  constructor
  · rintro ⟨before, after, same, kept⟩
    rcases List.eq_nil_or_concat after with rfl | ⟨after, last, rfl⟩
    · exact Or.inl (List.singleton_inj.1 (List.append_inj_right' same rfl))
    · rw [List.concat_eq_append, ← List.cons_append, ← List.append_assoc] at same
      obtain ⟨rfl, equal⟩ := List.append_inj' same rfl
      obtain rfl := List.singleton_inj.1 equal
      have last_kept : spec.replaces bound = false := kept spec (by simp)
      exact Or.inr
        ⟨last_kept, before, after, rfl, fun later follows => kept later (by simp [follows])⟩
  · rintro (rfl | ⟨last_kept, before, after, rfl, kept⟩)
    · exact ⟨own, [], rfl, nofun⟩
    · refine ⟨before, after ++ [spec], by simp, fun later follows => ?_⟩
      rcases List.mem_append.1 follows with follows | follows
      · exact kept later follows
      · rw [List.mem_singleton.1 follows, last_kept]

theorem LastFor.unique {scale scale' : LevelScale} {levels levels' : LevelPair}
    (h : LastFor own bound scale levels) (h' : LastFor own bound scale' levels') :
    scale = scale' ∧ levels = levels' := by
  induction own using List.reverseRecOn with
  | nil =>
    obtain ⟨before, after, same, -⟩ := h
    simp at same
  | append_singleton before spec ih =>
    rcases lastFor_concat.1 h with rfl | ⟨kept, earlier⟩
    · rcases lastFor_concat.1 h' with same | ⟨kept, -⟩
      · cases same
        exact ⟨rfl, rfl⟩
      · simp [replaces] at kept
    · rcases lastFor_concat.1 h' with rfl | ⟨-, earlier'⟩
      · simp [replaces] at kept
      · exact ih earlier earlier'

theorem Settles.unique {other : Option Thresholds} (h : Settles own bound speed unit thresholds)
    (h' : Settles own bound speed unit other) : thresholds = other := by
  rcases h with ⟨scale, levels, last, resolved⟩ | ⟨unset, rfl⟩
  · rcases h' with ⟨scale', levels', last', resolved'⟩ | ⟨unset, -⟩
    · obtain ⟨rfl, rfl⟩ := last.unique last'
      exact resolved.unique resolved'
    · exact absurd last (unset scale levels)
  · rcases h' with ⟨scale', levels', last', -⟩ | ⟨-, rfl⟩
    · exact absurd last' (unset scale' levels')
    · rfl

theorem Settles.nil : Settles [] bound speed unit none :=
  Or.inr ⟨fun _ _ ⟨before, _, same, _⟩ => by simp at same, rfl⟩

theorem Settles.last (own : List LevelSpec) (bound : Bound) (scale : LevelScale)
    (levels : LevelPair) :
    Settles (own ++ [.fixed scale bound levels]) bound speed unit
      (levels.thresholdsFor scale speed unit) :=
  Or.inl ⟨scale, levels, lastFor_concat.2 (Or.inl rfl), LevelPair.thresholdsFor_eq_iff.1 rfl⟩

theorem Settles.concat (settled : Settles own bound speed unit thresholds)
    (kept : spec.replaces bound = false) : Settles (own ++ [spec]) bound speed unit thresholds := by
  have same (scale : LevelScale) (levels : LevelPair) :
      LastFor (own ++ [spec]) bound scale levels ↔ LastFor own bound scale levels := by
    rw [lastFor_concat, and_iff_right kept, or_iff_right]
    rintro rfl
    simp [replaces] at kept
  simpa only [Settles, same] using settled

theorem Settles.of_prediction {config : Json} (last : own.getLast? = some (.predictive config)) :
    Settles own bound speed unit none := by
  obtain ⟨before, rfl⟩ := List.getLast?_eq_some_iff.1 last
  refine Or.inr ⟨fun scale levels settled => ?_, rfl⟩
  rcases lastFor_concat.1 settled with same | ⟨kept, -⟩
  · cases same
  · cases kept

end LevelSpec

def EffectiveLevels.Meaning (own : List LevelSpec) (speed : Option Float) (unit : TrafficUnit) :
    EffectiveLevels → Prop
  | .predictive config => own.getLast? = some (.predictive config)
  | .fixed upper lower =>
    (∀ config, own.getLast? ≠ some (.predictive config)) ∧
      LevelSpec.Settles own .upper speed unit upper ∧
        LevelSpec.Settles own .lower speed unit lower

theorem EffectiveLevels.Meaning.override {own : List LevelSpec} {speed : Option Float}
    {unit : TrafficUnit} {old : EffectiveLevels} (h : old.Meaning own speed unit)
    (spec : LevelSpec) :
    (old.override speed unit spec).Meaning (own ++ [spec]) speed unit := by
  cases spec with
  | predictive config => simp [EffectiveLevels.override, Meaning]
  | fixed scale bound levels =>
    have last (config : Json) :
        (own ++ [LevelSpec.fixed scale bound levels]).getLast? ≠ some (.predictive config) := by
      simp
    have settled (other : Bound) (apart : other ≠ bound) (thresholds : Option Thresholds)
        (before : LevelSpec.Settles own other speed unit thresholds) :
        LevelSpec.Settles (own ++ [.fixed scale bound levels]) other speed unit thresholds :=
      before.concat (by simp [LevelSpec.replaces, apart.symm])
    -- Fixed levels after a prediction start with nothing settled for the other bound.
    cases old with
    | predictive config =>
      cases bound with
      | upper =>
        exact ⟨last, .last own .upper scale levels, settled .lower nofun _ (.of_prediction h)⟩
      | lower =>
        exact ⟨last, settled .upper nofun _ (.of_prediction h), .last own .lower scale levels⟩
    | fixed upper lower =>
      obtain ⟨-, upper_settled, lower_settled⟩ := h
      cases bound with
      | upper =>
        exact ⟨last, .last own .upper scale levels, settled .lower nofun _ lower_settled⟩
      | lower =>
        exact ⟨last, settled .upper nofun _ upper_settled, .last own .lower scale levels⟩

theorem mergedLevels_eq_foldl (rules : List TrafficRule) (speeds : ReferenceSpeeds)
    (unit : TrafficUnit) (direction : Direction) :
    mergedLevels rules speeds unit direction =
      (levelsFor direction rules).foldl (EffectiveLevels.override (speeds.get direction) unit)
        (.fixed none none) := by
  have applied : (rules.filter fun rule => rule.direction.covers direction) =
      rules.filter fun rule => decide (rule.AppliesTo direction) := by
    refine List.filter_congr fun rule _ => ?_
    rw [Bool.eq_iff_iff, TrafficRule.covers_iff, decide_eq_true_iff]
  rw [mergedLevels, applied, levelsFor, List.foldl_map]

theorem mergedLevels_meaning (rules : List TrafficRule) (speeds : ReferenceSpeeds)
    (unit : TrafficUnit) (direction : Direction) :
    (mergedLevels rules speeds unit direction).Meaning (levelsFor direction rules)
      (speeds.get direction) unit := by
  rw [mergedLevels_eq_foldl]
  induction levelsFor direction rules using List.reverseRecOn with
  | nil => exact ⟨by simp, .nil, .nil⟩
  | append_singleton before spec ih =>
    rw [List.foldl_append]
    exact ih.override spec

/-- Only the rules that apply to a direction count for it. If the last of them is predictive, its
prediction is all that is left. Otherwise the upper and the lower thresholds are those of the last
rule for the bound after the last predictive one, whatever earlier rules say. -/
theorem merged_levels (rules : List TrafficRule) (speeds : ReferenceSpeeds) (unit : TrafficUnit)
    (direction : Direction) :
    let own := levelsFor direction rules
    let speed := match direction with
      | .input => speeds.input
      | .output => speeds.output
      | .total => speeds.total
    let merged := mergedLevels rules speeds unit direction
    (∀ config, merged = .predictive config ↔ own.getLast? = some (.predictive config)) ∧
      ∀ upper lower, merged = .fixed upper lower ↔
        (∀ config, own.getLast? ≠ some (.predictive config)) ∧
          LevelSpec.Settles own .upper speed unit upper ∧
          LevelSpec.Settles own .lower speed unit lower := by
  intro own speed merged
  have meaning : merged.Meaning own speed unit := mergedLevels_meaning rules speeds unit direction
  refine ⟨fun config => ?predicted, fun upper lower => ?settled⟩
  case predicted =>
    cases levels : merged with
    | predictive other =>
      rw [levels] at meaning
      rw [show own.getLast? = some (.predictive other) from meaning]
      simp
    | fixed upper lower =>
      rw [levels] at meaning
      exact iff_of_false nofun (meaning.1 config)
  case settled =>
    cases levels : merged with
    | predictive config =>
      rw [levels] at meaning
      exact iff_of_false nofun fun ⟨unpredicted, _⟩ => unpredicted config meaning
    | fixed upper' lower' =>
      rw [levels] at meaning
      obtain ⟨unpredicted, upper_settled, lower_settled⟩ := meaning
      constructor
      · rintro ⟨⟩
        exact ⟨unpredicted, upper_settled, lower_settled⟩
      · rintro ⟨-, upper_settled', lower_settled'⟩
        rw [upper_settled.unique upper_settled', lower_settled.unique lower_settled']

-- Upper levels in percent of a speed stand beside lower levels in bits.
example : mergedLevels
    [⟨.both, .fixed .absolute .upper ⟨1.0, 2.0⟩⟩,
      ⟨.only .input, .fixed .percent .upper ⟨80.0, 90.0⟩⟩,
      ⟨.both, .fixed .absolute .lower ⟨16.0, 8.0⟩⟩]
    ⟨some 1000.0, none, none⟩ .bit .input =
      .fixed (some ⟨800.0, 900.0⟩) (some ⟨2.0, 1.0⟩) := rfl

-- Levels in percent without a speed take away the absolute ones before them.
example : mergedLevels
    [⟨.both, .fixed .absolute .upper ⟨1.0, 2.0⟩⟩,
      ⟨.only .input, .fixed .percent .upper ⟨80.0, 90.0⟩⟩]
    ⟨none, none, none⟩ .byte .input = .fixed none none := rfl

end IfaceMonitor
