import IfaceMonitor.Proofs.Check.Matches
import IfaceMonitor.Proofs.Rate.GroupSums
import Mathlib.Data.List.Induction

namespace IfaceMonitor

def Averaging.backlogOfRate (a : Averaging) : RateName → Option Nat
  | .counter .inOctets | .counter .outOctets | .total .octets => a.octets
  | .counter .inMcast | .counter .inBcast | .total .inNonUnicast => a.broadcastMulticast
  | .counter .outMcast | .counter .outBcast | .total .outNonUnicast => a.broadcastMulticast
  | .counter .inUcast | .counter .inDisc | .counter .inErr => none
  | .counter .outUcast | .counter .outDisc | .counter .outErr => none

theorem Averaging.backlogOfRate_counter (a : Averaging) (c : Counter) :
    a.backlogOfRate (.counter c) = a.backlogOf c := by
  cases c <;> rfl

theorem Averaging.backlogOfRate_parts (a : Averaging) (t : Total) :
    a.backlogOfRate (.counter t.parts.1) = a.backlogOfRate (.total t) ∧
      a.backlogOfRate (.counter t.parts.2) = a.backlogOfRate (.total t) := by
  cases t <;> exact ⟨rfl, rfl⟩

namespace AveragedRate

def backlog? (r : AveragedRate) : Option Nat :=
  r.average.map (·.backlog)

def SameBacklog (a b : AveragedRate) : Prop :=
  (∃ x y, a.average = some x ∧ b.average = some y ∧ x.backlog = y.backlog) ∨
    a.average = none ∧ b.average = none

variable {a b : AveragedRate}

theorem sameBacklog_of_eq (same : a.backlog? = b.backlog?) : a.SameBacklog b := by
  simp only [backlog?] at same
  cases own : a.average with
  | none =>
    rw [own] at same
    exact Or.inr ⟨own, Option.map_eq_none_iff.1 same.symm⟩
  | some x =>
    rw [own] at same
    obtain ⟨y, other, backlog⟩ := Option.map_eq_some_iff.1 same.symm
    exact Or.inl ⟨x, y, own, other, backlog.symm⟩

theorem backlog?_add (same : a.backlog? = b.backlog?) : (a.add b).backlog? = a.backlog? := by
  obtain ⟨x, y, own, other, backlog⟩ | ⟨own, other⟩ := sameBacklog_of_eq same
  · simp only [backlog?, average_add_eq_some.2 ⟨x, y, own, other, backlog, rfl⟩, own,
      Option.map_some]
  · simp only [backlog?, add, own, other, addAverages]

theorem SameBacklog.add_averages (same : a.SameBacklog b) {x y : Average} (own : a.average = some x)
    (other : b.average = some y) : ∃ sum, x.add y = .ok sum := by
  obtain ⟨x', y', own', other', backlog⟩ | ⟨missing, -⟩ := same
  · obtain rfl := Option.some.inj (own.symm.trans own')
    obtain rfl := Option.some.inj (other.symm.trans other')
    exact ⟨_, if_pos backlog⟩
  · rw [own] at missing
    cases missing

end AveragedRate

namespace TrafficRates

/-- Every rate is averaged over its backlog, or not at all where there is none. -/
def AveragedOver (backlog : RateName → Option Nat) (r : TrafficRates) : Prop :=
  ∀ n rate, r.get n = some rate → rate.backlog? = backlog n

variable {backlog : RateName → Option Nat} {r s : TrafficRates}

theorem AveragedOver.missing (backlog : RateName → Option Nat) :
    AveragedOver backlog .missing := by
  intro n rate present
  rw [get_missing] at present
  cases present

theorem AveragedOver.add (hr : r.AveragedOver backlog) (hs : s.AveragedOver backlog) :
    (r.add s).AveragedOver backlog := by
  intro n rate present
  rw [get_add] at present
  cases own : r.get n with
  | none =>
    rw [own] at present
    exact hs n rate present
  | some a =>
    cases other : s.get n with
    | none =>
      rw [own, other] at present
      exact (Option.some.inj present) ▸ hr n a own
    | some b =>
      rw [own, other] at present
      obtain rfl := Option.some.inj present
      rw [AveragedRate.backlog?_add ((hr n a own).trans (hs n b other).symm), hr n a own]

theorem AveragedOver.ofCounters {averaging : Averaging}
    {counters : PerCounter (Option AveragedRate)}
    (each : ∀ c rate, counters.get c = some rate → rate.backlog? = averaging.backlogOf c) :
    (ofCounters counters).AveragedOver averaging.backlogOfRate := by
  intro n rate present
  cases n with
  | counter c =>
    rw [Averaging.backlogOfRate_counter]
    exact each c rate present
  | total t =>
    rw [get_ofCounters_total, sumIfBoth_eq_some] at present
    obtain ⟨a, b, first, second, rfl⟩ := present
    obtain ⟨first_backlog, second_backlog⟩ := averaging.backlogOfRate_parts t
    rw [Averaging.backlogOfRate_counter] at first_backlog second_backlog
    have own : a.backlog? = averaging.backlogOfRate (.total t) :=
      (each _ a first).trans first_backlog
    have other : b.backlog? = averaging.backlogOfRate (.total t) :=
      (each _ b second).trans second_backlog
    rw [AveragedRate.backlog?_add (own.trans other.symm), own]

end TrafficRates

namespace Measured

theorem measure_averagedOver (i : Interface) (time : Float) (averaging : Averaging)
    (store : SampleStore) :
    (measure i time averaging store).1.rates.AveragedOver averaging.backlogOfRate := by
  rw [measure_rates_eq]
  apply TrafficRates.AveragedOver.ofCounters
  intro c rate present
  simp only [measure, TrafficRates.ofCounters, PerCounter.get_ofFn, averageRates_lookup] at present
  obtain ⟨r, -, rfl⟩ := Option.map_eq_some_iff.1 present
  rw [averageRate]
  split
  · next unaveraged => rw [unaveraged]; rfl
  · next backlog averaged => rw [averaged]; rfl

theorem rates_concat_of_up (group : String) (members : List Measured) {m : Measured}
    (up : m.attributes.isUp = true) :
    (ofMembers group (members ++ [m])).rates = (ofMembers group members).rates.add m.rates := by
  simp [ofMembers, List.filter_append, up]

theorem rates_concat_of_not_up (group : String) (members : List Measured) {m : Measured}
    (other : m.attributes.isUp = false) :
    (ofMembers group (members ++ [m])).rates = (ofMembers group members).rates := by
  simp [ofMembers, List.filter_append, other]

theorem ofMembers_averagedOver {members : List Measured} {backlog : RateName → Option Nat}
    (each : ∀ m ∈ members, m.rates.AveragedOver backlog) (group : String) :
    (ofMembers group members).rates.AveragedOver backlog := by
  induction members using List.reverseRecOn with
  | nil => exact .missing backlog
  | append_singleton before m ih =>
    have sum := ih fun other listed => each other (List.mem_append_left _ listed)
    cases up : m.attributes.isUp with
    | true =>
      rw [rates_concat_of_up group before up]
      exact sum.add (each m (List.mem_append_right _ (List.mem_singleton_self m)))
    | false =>
      rw [rates_concat_of_not_up group before up]
      exact sum

end Measured

namespace Check
variable {item : String} {settings : CheckSettings} {interfaces : Section} {time : Float}
  {store : SampleStore}

def measuredBy (item : String) (settings : CheckSettings) (interfaces : Section) (time : Float)
    (store : SampleStore) : List Measured :=
  match settings.discovered.group with
  | some config =>
    (Measured.measureAll time settings.averaging (config.membersIn item interfaces) store).1
  | none =>
    measuredEach time settings.averaging (interfaces.meantBy item settings.discovered.naming) store

def judgedBy (item : String) (settings : CheckSettings) (interfaces : Section) (time : Float)
    (store : SampleStore) : List Measured :=
  if settings.discovered.group.isSome then [.ofMembers item
    (measuredBy item settings interfaces time store)]
  else measuredBy item settings interfaces time store

/-- A check adds the two rates, in this order. Only `TrafficRates.ofCounters` and
`Measured.ofMembers` add rates that have averages, the one for the totals of an interface and the
other member by member (`Measured.rates_concat_of_up`). -/
inductive Adds (item : String) (settings : CheckSettings) (interfaces : Section) (time : Float)
    (store : SampleStore) :
    AveragedRate → AveragedRate → Prop
  | parts {m : Measured} (measured : m ∈ measuredBy item settings interfaces time store)
      (t : Total) {a b : AveragedRate} (first : m.rates.get (.counter t.parts.1) = some a)
      (second : m.rates.get (.counter t.parts.2) = some b) :
      Adds item settings interfaces time store a b
  | member (grouped : settings.discovered.group.isSome = true) {before after : List Measured}
      {m : Measured}
      (members : measuredBy item settings interfaces time store = before ++ m :: after)
      (up : m.attributes.isUp = true) (n : RateName) {a b : AveragedRate}
      (sum : (Measured.ofMembers item before).rates.get n = some a)
      (rate : m.rates.get n = some b) : Adds item settings interfaces time store a b

theorem measuredEach_averagedOver {averaging : Averaging} {found : List Interface} {m : Measured}
    (measured : m ∈ measuredEach time averaging found store) :
    m.rates.AveragedOver averaging.backlogOfRate := by
  induction found generalizing store with
  | nil => cases measured
  | cons i rest ih =>
    rcases List.mem_cons.1 measured with rfl | measured
    · rw [measureUnlessDown]
      split
      · exact .missing _
      · exact Measured.measure_averagedOver i time averaging store
    · exact ih measured

theorem measuredBy_averagedOver {m : Measured}
    (measured : m ∈ measuredBy item settings interfaces time store) :
    m.rates.AveragedOver settings.averaging.backlogOfRate := by
  rw [measuredBy] at measured
  split at measured
  · obtain ⟨i, -, store, rfl⟩ := Measured.mem_measureAll measured
    exact Measured.measure_averagedOver i time settings.averaging store
  · exact measuredEach_averagedOver measured

theorem judgedBy_averagedOver {m : Measured}
    (judged : m ∈ judgedBy item settings interfaces time store) :
    m.rates.AveragedOver settings.averaging.backlogOfRate := by
  rw [judgedBy] at judged
  split at judged
  · rw [List.mem_singleton.1 judged]
    exact Measured.ofMembers_averagedOver (fun _ => measuredBy_averagedOver) item
  · exact measuredBy_averagedOver judged

theorem Adds.backlog?_eq {a b : AveragedRate}
    (adds : Adds item settings interfaces time store a b) :
    a.backlog? = b.backlog? := by
  cases adds with
  | parts measured t first second =>
    have averaged := measuredBy_averagedOver measured
    obtain ⟨first_backlog, second_backlog⟩ := settings.averaging.backlogOfRate_parts t
    rw [averaged _ a first, averaged _ b second, first_backlog, second_backlog]
  | @member grouped before after m members up n _ _ sum rate =>
    have averaged (other : Measured) (listed : other ∈ before ++ m :: after) :=
      measuredBy_averagedOver
        (members.symm ▸ listed : other ∈ measuredBy item settings interfaces time store)
    have total :=
      Measured.ofMembers_averagedOver
        (fun other listed => averaged other (List.mem_append_left _ listed)) item
    rw [total n a sum, averaged m (List.mem_append_right _ List.mem_cons_self) n b rate]

theorem exists_judged {comparator : Option Comparator} {entries : List Entry} {after : SampleStore}
    (h : checkItem comparator item settings interfaces time store = .ok (entries, after)) :
    entries = [] ∨ ∃ m ∈ judgedBy item settings interfaces time store,
      ∃ listing useDiscovered,
      report comparator item settings m listing useDiscovered = .ok entries := by
  rw [judgedBy, measuredBy]
  cases grouped : settings.discovered.group with
  | some config =>
    obtain ⟨-, listing, useDiscovered, reported⟩ := checkItem_group grouped h
    exact Or.inr ⟨_, List.mem_singleton_self _, listing, useDiscovered, reported⟩
  | none =>
    obtain ⟨-, reports, reported, rfl, -⟩ := (checkItem_single grouped).1 h
    by_cases nothing : reports = []
    · subst nothing
      exact Or.inl rfl
    · obtain ⟨m, measured, own⟩ := reported.exists_of_mem (chosenEntries_mem nothing)
      exact Or.inr ⟨m, measured, _, _, own⟩

end Check

/-- Whatever a check adds, inside an interface or over the members of a group, both rates have an
average over the same backlog or neither has one, so averages are always added. In all that a check
judges, each rate is averaged over the backlog of the settings for it, and not at all without
one. -/
theorem averages_uniform (comparator : Option Comparator) (item : String) (settings : CheckSettings)
    (interfaces : Section) (time : Float) (store : SampleStore) :
    (∀ a b, Check.Adds item settings interfaces time store a b →
        a.SameBacklog b ∧ ∀ x y, a.average = some x → b.average = some y → ∃ sum,
          x.add y = .ok sum) ∧
      (∀ m ∈ Check.judgedBy item settings interfaces time store, ∀ n rate,
        m.rates.get n = some rate →
        rate.average.map (·.backlog) = settings.averaging.backlogOfRate n) ∧
      ∀ entries after,
        checkItem comparator item settings interfaces time store = .ok (entries, after) →
        entries = [] ∨ ∃ m ∈ Check.judgedBy item settings interfaces time store,
          ∃ listing useDiscovered,
          Check.report comparator item settings m listing useDiscovered = .ok entries := by
  refine ⟨fun a b adds => ?_, fun m judged => Check.judgedBy_averagedOver judged, fun _ _ =>
    Check.exists_judged⟩
  have same := AveragedRate.sameBacklog_of_eq adds.backlog?_eq
  exact ⟨same, fun x y => same.add_averages⟩

def averagedPorts : List Interface :=
  [⟨bondAttributes "1" .up,
    .rates { PerCounter.missing with inOctets := some 10.0, outOctets := some 1.0 }⟩,
    ⟨bondAttributes "2" .up, .rates { PerCounter.missing with inOctets := some 20.0 }⟩]

def averagingBond : CheckSettings :=
  { CheckSettings.standard.withDiscovered
    { Discovered.none with group := some (.ofTag .index) } with
    averaging := ⟨some 5, some 10⟩ }

theorem averages_of_averagingBond :
    ∃ a b, Check.Adds "bond0" averagingBond averagedPorts 5.0 .empty a b ∧ a.SameBacklog b ∧
      ∃ x y sum, a.average = some x ∧ b.average = some y ∧ x.add y = .ok sum ∧
        x.backlog = 5 := by
  have adds : Check.Adds "bond0" averagingBond averagedPorts 5.0 .empty
      ⟨10.0, some ⟨10.0, 5⟩⟩ ⟨20.0, some ⟨20.0, 5⟩⟩ :=
    @Check.Adds.member _ _ _ _ _ rfl [_] [] _ rfl rfl (.counter .inOctets) _ _ rfl rfl
  obtain ⟨same, added⟩ :=
    (averages_uniform none "bond0" averagingBond averagedPorts 5.0 .empty).1 _ _ adds
  obtain ⟨sum, summed⟩ := added _ _ rfl rfl
  exact ⟨_, _, adds, same, _, _, sum, rfl, rfl, summed, rfl⟩

end IfaceMonitor
