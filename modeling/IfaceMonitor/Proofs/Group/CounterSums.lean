import IfaceMonitor.Group.Combined
import IfaceMonitor.Proofs.Rate.GroupSums
import Mathlib.Algebra.BigOperators.Group.List.Basic
import Mathlib.Algebra.Ring.Nat

namespace IfaceMonitor

theorem toNat_addSaturating (a b : UInt64) :
    (addSaturating a b).toNat = min (2 ^ 64 - 1) (a.toNat + b.toNat) := by
  have := a.toNat_lt
  have := b.toNat_lt
  rw [addSaturating, show Nat.pow 2 64 = 2 ^ 64 from rfl]
  split
  · next fits =>
    rw [UInt64.toNat_add]
    omega
  · next exceeds =>
    rw [show (0xFFFFFFFFFFFFFFFF : UInt64).toNat = 2 ^ 64 - 1 from rfl]
    omega

/-- A sum of counters: missing if there is nothing to add, else the exact sum or the largest value,
whichever is less. -/
structure SaturatedSum (parts : List UInt64) (sum : Option UInt64) : Prop where
  missing : sum = none ↔ parts = []
  value : ∀ total, sum = some total →
    total.toNat = min (2 ^ 64 - 1) (parts.map UInt64.toNat).sum

namespace SaturatedSum
variable {parts others : List UInt64} {sum other : Option UInt64}

theorem nil : SaturatedSum [] none :=
  ⟨by simp, nofun⟩

theorem step (h : SaturatedSum parts sum) (n : UInt64) :
    SaturatedSum (parts ++ [n]) (sumOfPresent addSaturating sum (some n)) := by
  cases sum with
  | none =>
    obtain rfl := h.missing.1 rfl
    refine ⟨by simp [sumOfPresent], fun total same => ?_⟩
    obtain rfl := Option.some.inj same
    have := n.toNat_lt
    simp
    omega
  | some before =>
    refine ⟨by simp [sumOfPresent], fun total same => ?_⟩
    obtain rfl := Option.some.inj same
    rw [toNat_addSaturating, h.value before rfl]
    simp
    omega

theorem eq_of_perm (h : SaturatedSum parts sum) (h' : SaturatedSum others other)
    (perm : others.Perm parts) : other = sum := by
  cases sum with
  | none =>
    obtain rfl := h.missing.1 rfl
    exact h'.missing.2 perm.eq_nil
  | some total =>
    cases other with
    | none =>
      obtain rfl := h'.missing.1 rfl
      have := h.missing.2 perm.symm.eq_nil
      cases this
    | some total' =>
      have same : total'.toNat = total.toNat := by
        rw [h.value total rfl, h'.value total' rfl, (perm.map UInt64.toNat).sum_eq]
      rw [UInt64.toNat_inj.1 same]

end SaturatedSum

namespace Group

def countsOf (members : List Interface) (c : Counter) : List UInt64 :=
  members.filterMap (·.count? c)

def addCounters (total : RawCounters) (i : Interface) : RawCounters :=
  match i.traffic with
  | .counters counters => RawCounters.add total counters
  | .rates _ => total

theorem countsOf_eq_nil {members : List Interface} {c : Counter} :
    countsOf members c = [] ↔ ∀ i ∈ members, i.count? c = none :=
  List.filterMap_eq_nil_iff

theorem addCounters_get (total : RawCounters) (i : Interface) (c : Counter) :
    (addCounters total i).get c = sumOfPresent addSaturating (total.get c) (i.count? c) := by
  obtain ⟨a, counters | rates⟩ := i
  · exact PerCounter.get_ofFn
      (fun c => sumOfPresent addSaturating (total.get c) (counters.get c)) c
  · cases h : total.get c <;> simp [addCounters, Interface.count?, sumOfPresent, h]

theorem foldl_addCounters {c : Counter} {members : List Interface} {parts : List UInt64}
    {total : RawCounters} (h : SaturatedSum parts (total.get c)) :
    SaturatedSum (parts ++ countsOf members c) ((members.foldl addCounters total).get c) := by
  induction members generalizing parts total with
  | nil => simpa [countsOf] using h
  | cons i rest ih =>
    have first : SaturatedSum (parts ++ (i.count? c).toList) ((addCounters total i).get c) := by
      rw [addCounters_get]
      cases i.count? c with
      | none => cases same : total.get c <;> simpa [sumOfPresent, same] using h
      | some n => exact h.step n
    have split : countsOf (i :: rest) c = (i.count? c).toList ++ countsOf rest c := by
      cases own : i.count? c <;> simp [countsOf, own]
    rw [split, ← List.append_assoc]
    exact ih first

theorem asInterface_traffic {group : String} {config : GroupConfig} {interfaces : Section}
    {first : Interface} {rest : List Interface} {counters : RawCounters}
    (members : config.membersIn group interfaces = first :: rest)
    (counted : first.traffic = .counters counters) :
    (asInterface group config interfaces).traffic =
      .counters ((first :: rest).foldl addCounters .missing) := by
  obtain ⟨attributes, traffic⟩ := first
  cases counted
  rw [asInterface, members]
  rfl

theorem saturatedSum_members (members : List Interface) (c : Counter) :
    SaturatedSum (countsOf members c) ((members.foldl addCounters .missing).get c) := by
  have none_yet : (PerCounter.missing : RawCounters).get c = none := PerCounter.get_ofFn _ c
  exact foldl_addCounters (none_yet ▸ SaturatedSum.nil)

theorem foldl_addCounters_of_perm {members others : List Interface}
    (perm : ∀ c, (countsOf others c).Perm (countsOf members c)) :
    others.foldl addCounters .missing = members.foldl addCounters .missing :=
  PerCounter.ext_get fun c =>
    (saturatedSum_members members c).eq_of_perm (saturatedSum_members others c) (perm c)

end Group

def Traffic.isCounters : Traffic → Bool
  | .counters _ => true
  | .rates _ => false

theorem Group.countsOf_filter (members : List Interface) (c : Counter) :
    countsOf (members.filter (·.traffic.isCounters)) c = countsOf members c := by
  rw [countsOf, List.filterMap_filter]
  refine List.filterMap_congr fun i _ => ?_
  obtain ⟨a, counters | rates⟩ := i <;> rfl

/-- If the first member of a group carries counters, the group has each counter that some member
with counters has: the exact sum of theirs, cut off once at the largest value. Members with rates
may as well not be there, and the order of the members after the first one does not matter. -/
theorem group_counters {group : String} {config : GroupConfig} {interfaces : Section}
    {first : Interface} {rest : List Interface} {counters : RawCounters}
    (members : config.membersIn group interfaces = first :: rest)
    (counted : first.traffic = .counters counters) :
    ∃ sums, (Group.asInterface group config interfaces).traffic = .counters sums ∧
      (∀ c, (sums.get c = none ↔ ∀ i ∈ first :: rest, i.count? c = none) ∧
        ∀ total, sums.get c = some total →
          total.toNat = min (2 ^ 64 - 1)
            ((Group.countsOf (first :: rest) c).map UInt64.toNat).sum) ∧
      (Group.asInterface group config (interfaces.filter (·.traffic.isCounters))).traffic =
        .counters sums ∧
      ∀ others later, config.membersIn group others = first :: later → later.Perm rest →
        (Group.asInterface group config others).traffic = .counters sums := by
  refine ⟨_, Group.asInterface_traffic members counted, fun c => ?_, ?without_rates, ?reordered⟩
  · have sum := Group.saturatedSum_members (first :: rest) c
    exact ⟨sum.missing.trans Group.countsOf_eq_nil, sum.value⟩
  case without_rates =>
    have own : (first :: rest).filter (·.traffic.isCounters) =
        first :: rest.filter (·.traffic.isCounters) := by
      simp [counted, Traffic.isCounters]
    have kept : config.membersIn group (interfaces.filter (·.traffic.isCounters)) =
        first :: rest.filter (·.traffic.isCounters) := by
      rw [GroupConfig.membersIn, List.filter_comm, ← GroupConfig.membersIn, members, own]
    rw [Group.asInterface_traffic kept counted]
    refine congrArg Traffic.counters (Group.foldl_addCounters_of_perm fun c => List.Perm.of_eq ?_)
    rw [← own, Group.countsOf_filter]
  case reordered =>
    intro others later listed perm
    rw [Group.asInterface_traffic listed counted]
    exact congrArg Traffic.counters
      (Group.foldl_addCounters_of_perm fun c => (perm.cons first).filterMap _)

def mixedBond : Section :=
  [⟨bondAttributes "1" .up,
    .counters { PerCounter.missing with inOctets := some 0xFFFFFFFFFFFFFFF0 }⟩,
    ⟨bondAttributes "2" .up,
    .rates { PerCounter.missing with inOctets := some 5.0, inErr := some 1.0 }⟩,
    ⟨bondAttributes "3" .down,
    .counters { PerCounter.missing with inOctets := some 32, outErr := some 7 }⟩]

theorem counters_of_mixedBond :
    ∃ sums, (Group.asInterface "bond0" (.ofTag .index) mixedBond).traffic = .counters sums ∧
      sums.get .inErr = none ∧
      ∃ octets errors, sums.get .inOctets = some octets ∧ octets.toNat = 2 ^ 64 - 1 ∧
        sums.get .outErr = some errors ∧ errors.toNat = 7 := by
  have members : (GroupConfig.ofTag .index).membersIn "bond0" mixedBond = mixedBond := rfl
  obtain ⟨sums, traffic, each, -, -⟩ := group_counters members rfl
  have present (c : Counter) (counted : Group.countsOf mixedBond c ≠ []) :
      ∃ total, sums.get c = some total := by
    rw [← Option.isSome_iff_exists, Option.isSome_iff_ne_none]
    exact fun none_there => counted (Group.countsOf_eq_nil.2 ((each c).1.1 none_there))
  obtain ⟨octets, some_octets⟩ := present .inOctets nofun
  obtain ⟨errors, some_errors⟩ := present .outErr nofun
  refine ⟨sums, traffic, (each .inErr).1.2 ?_, octets, errors, some_octets,
    (each .inOctets).2 octets some_octets,
    some_errors, (each .outErr).2 errors some_errors⟩
  exact Group.countsOf_eq_nil.1 rfl

end IfaceMonitor
