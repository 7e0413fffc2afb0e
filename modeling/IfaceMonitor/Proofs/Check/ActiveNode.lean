import IfaceMonitor.Proofs.Check.Matches
import IfaceMonitor.Proofs.Decimal.Order
import IfaceMonitor.Proofs.Rate.Keys

namespace IfaceMonitor

namespace Check
variable {item : String} {settings : CheckSettings} {interfaces : Section} {time : Float}
  {store : SampleStore} {entries : List Entry}

def Comparable (reports : List (List Entry)) : Prop :=
  ∀ report ∈ reports, ∀ traffic, outgoingTraffic? report = some traffic →
    traffic.isNaN = false ∧ traffic > -1.0

def Busiest (reports : List (List Entry)) (traffic : Float) (entries : List Entry) : Prop :=
  ∃ before after, reports = before ++ entries :: after ∧
    outgoingTraffic? entries = some traffic ∧
    (∀ other ∈ reports, ∀ more, outgoingTraffic? other = some more → ¬more > traffic) ∧
    ∀ other ∈ before, ∀ less, outgoingTraffic? other = some less → less < traffic

namespace Busiest
variable {reports : List (List Entry)} {traffic : Float}

theorem keep (busiest : Busiest reports traffic entries) {new : List Entry}
    (behind : ∀ more, outgoingTraffic? new = some more → ¬more > traffic) :
    Busiest (reports ++ [new]) traffic entries := by
  obtain ⟨before, after, rfl, here, most, first⟩ := busiest
  refine ⟨before, after ++ [new], by simp, here, fun other member more shown => ?_, first⟩
  rcases List.mem_append.1 member with earlier | last
  · exact most other earlier more shown
  · rw [List.mem_singleton.1 last] at shown
    exact behind more shown

theorem lead {new : List Entry} (shown : outgoingTraffic? new = some traffic)
    (ahead :
      ∀ other ∈ reports, ∀ less, outgoingTraffic? other = some less → less < traffic) :
    Busiest (reports ++ [new]) traffic new := by
  refine ⟨reports, [], rfl, shown, fun other member more seen => ?_, ahead⟩
  rcases List.mem_append.1 member with earlier | last
  · exact Comparison.lt_asymm (ahead other earlier more seen)
  · rw [List.mem_singleton.1 last, shown, Option.some.injEq] at seen
    rw [seen]
    exact fun more => Comparison.lt_asymm more more

end Busiest

namespace Selection
variable {s : Selection} {new : List Entry}

theorem fastest_add_of_none (silent : outgoingTraffic? new = .none) :
    (s.add new).fastest = s.fastest := by
  rw [add, silent]

theorem fastest_add_of_some {traffic : Float} (shown : outgoingTraffic? new = some traffic) :
    (s.add new).fastest =
      if traffic > (s.fastest.map (·.1)).getD (-1.0) then some (traffic, new) else s.fastest := by
  rw [add, shown]
  dsimp only
  split <;> rfl

end Selection

def Leads (reports : List (List Entry)) : Option (Float × List Entry) → Prop
  | none => ∀ report ∈ reports, outgoingTraffic? report = none
  | some (traffic, entries) => Busiest reports traffic entries

namespace Leads
variable {reports : List (List Entry)} {s : Selection}

theorem add (leads : Leads reports s.fastest) {new : List Entry}
    (comparable : Comparable (reports ++ [new])) :
    Leads (reports ++ [new]) (s.add new).fastest := by
  cases shown : outgoingTraffic? new with
  | none =>
    rw [Selection.fastest_add_of_none shown]
    cases best : s.fastest with
    | none =>
      rw [best] at leads
      intro report member
      rcases List.mem_append.1 member with earlier | here
      · exact leads report earlier
      · rw [List.mem_singleton.1 here, shown]
    | some chosen =>
      rw [best] at leads
      exact Busiest.keep leads fun more seen => by rw [shown] at seen; cases seen
  | some traffic =>
    rw [Selection.fastest_add_of_some shown]
    cases best : s.fastest with
    | none =>
      rw [best] at leads
      have above : traffic > -1.0 :=
        (comparable new (List.mem_append_right reports List.mem_cons_self) traffic shown).2
      rw [Option.map_none, Option.getD_none, if_pos above]
      refine Busiest.lead shown fun other earlier less seen => ?_
      rw [leads other earlier] at seen
      cases seen
    | some chosen =>
      rw [best] at leads
      obtain ⟨-, -, -, -, most, -⟩ := id leads
      rw [Option.map_some, Option.getD_some]
      -- Equal traffic does not take the lead, so the first of the busiest nodes keeps it.
      by_cases more : traffic > chosen.1
      · rw [if_pos more]
        exact Busiest.lead shown fun other earlier less seen =>
          Comparison.lt_of_not_lt_of_lt
            (comparable other (List.mem_append_left _ earlier) less seen).1
            (most other earlier less seen) more
      · rw [if_neg more]
        refine Busiest.keep leads fun other seen => ?_
        rw [shown, Option.some.injEq] at seen
        rwa [← seen]

theorem foldl_add (leads : Leads reports s.fastest) (rest : List (List Entry))
    (comparable : Comparable (reports ++ rest)) :
    Leads (reports ++ rest) (rest.foldl Selection.add s).fastest := by
  induction rest generalizing reports s with
  | nil => rwa [List.append_nil]
  | cons new rest ih =>
    rw [List.append_cons] at comparable ⊢
    exact ih (leads.add fun report member =>
      comparable report (List.mem_append_left _ member)) comparable

end Leads

theorem chosenEntries_busiest {reports : List (List Entry)} (comparable : Comparable reports)
    (outgoing : ∃ report ∈ reports, (outgoingTraffic? report).isSome = true) :
    ∃ traffic, Busiest reports traffic (chosenEntries reports) := by
  have start : Leads [] Selection.none.fastest := fun _ nothing => by cases nothing
  have leads := start.foldl_add reports comparable
  obtain ⟨report, member, shown⟩ := outgoing
  rw [chosenEntries, Selection.entries]
  cases best : (reports.foldl Selection.add .none).fastest with
  | none =>
    rw [best] at leads
    rw [leads report member] at shown
    cases shown
  | some chosen =>
    rw [best] at leads
    exact ⟨chosen.1, leads⟩

theorem measureUnlessDown_get?_of_notMem (i : Interface) (time : Float) (averaging : Averaging)
    (store : SampleStore) {key : String} (other : key ∉ i.attributes.storeKeys) :
    (measureUnlessDown i time averaging store).2.get? key = store.get? key := by
  rw [measureUnlessDown]
  split
  · rfl
  · exact Measured.measure_get?_of_notMem i time averaging store other

theorem samplesOfEach_get?_of_notMem {found : List Interface} {key : String}
    (others : ∀ i ∈ found, key ∉ i.attributes.storeKeys) (time : Float)
    (averaging : Averaging) (store : SampleStore) :
    (samplesOfEach time averaging found store).get? key = store.get? key := by
  induction found generalizing store with
  | nil => rfl
  | cons i rest ih =>
    rw [← measureUnlessDown_get?_of_notMem i time averaging store (others i List.mem_cons_self)]
    exact ih (fun j member => others j (List.mem_cons_of_mem i member)) _

theorem samplesOfEach_get? {found : List Interface}
    (apart : found.Pairwise fun i j => i.attributes.storeKeys.Disjoint j.attributes.storeKeys)
    {i : Interface} (matched : i ∈ found) (up : i.attributes.operStatus ≠ .down) {c : Counter}
    {n : UInt64} (counted : i.count? c = some n) (time : Float) (averaging : Averaging)
    (store : SampleStore) :
    (samplesOfEach time averaging found store).get? (sampleKey c i.attributes.identity) =
      some (sampleOf time n) := by
  induction found generalizing store with
  | nil => cases matched
  | cons j rest ih =>
    obtain ⟨apart, rest_apart⟩ := List.pairwise_cons.1 apart
    rcases List.mem_cons.1 matched with rfl | later
    · -- The matches behind it leave its key as it is.
      have own : sampleKey c i.attributes.identity ∈ i.attributes.storeKeys :=
        Attributes.mem_storeKeys.2 ⟨c, Or.inl rfl⟩
      refine (samplesOfEach_get?_of_notMem
        (fun j later => apart j later own) time averaging _).trans ?_
      have measured : measureUnlessDown i time averaging store =
          Measured.measure i time averaging store :=
        if_neg fun down => up (of_decide_eq_true down)
      dsimp only
      rw [measured, Measured.measure_get?, counted]
      rfl
    · exact ih rest_apart later _

end Check

/-- On clusters the node with the most outgoing traffic is reported, the first one of several,
wherever the traffic of the nodes can be compared. Whichever is reported, all matches that are not
down leave the samples of their counters, unless two matches meet in a key. Only predictive rules
without a comparator refuse a check. -/
theorem busiest_node_reported {item : String} {settings : CheckSettings}
    (ungrouped : settings.discovered.group = none) (interfaces : Section) (time : Float)
    (store : SampleStore) :
    (∃ rule ∈ settings.rulesInOrder, rule.levels.isPredictive = true) ∧
        (∃ error, checkItem none item settings interfaces time store = .error error) ∨
      ∃ reports entries after,
        Check.ReportsOfEach none item settings time
          (interfaces.meantBy item settings.discovered.naming) store reports ∧
        checkItem none item settings interfaces time store = .ok (entries, after) ∧
        ((∃ report ∈ reports, (Check.outgoingTraffic? report).isSome = true) →
          Check.Comparable reports →
          ∃ traffic, Check.Busiest reports traffic entries) ∧
        ((interfaces.meantBy item settings.discovered.naming).Pairwise
            (fun i j => i.attributes.storeKeys.Disjoint j.attributes.storeKeys) →
          ∀ i ∈ interfaces.meantBy item settings.discovered.naming,
            i.attributes.operStatus ≠ .down →
            ∀ c n, i.count? c = some n →
              after.get? (sampleKey c i.attributes.identity) = some (sampleOf time n)) := by
  cases required : Check.requireComparator none settings with
  | error error =>
    refine Or.inl ⟨?_, error, by rw [checkItem, required]; rfl⟩
    by_contra fixed
    have accepted : Check.requireComparator none settings = .ok () :=
      Check.requireComparator_eq_ok.2 (Or.inr fun rule member =>
        Bool.eq_false_iff.2 fun predictive => fixed ⟨rule, member, predictive⟩)
    rw [required] at accepted
    cases accepted
  | ok =>
    obtain ⟨reports, reported⟩ := Check.reportsOfEach_exist required item time
      (interfaces.meantBy item settings.discovered.naming) store
    exact Or.inr ⟨reports, _, _, reported,
      (Check.checkItem_single ungrouped).2 ⟨required, reports, reported, rfl, rfl⟩,
      fun outgoing comparable => Check.chosenEntries_busiest comparable outgoing,
      fun apart i matched up c n counted =>
        Check.samplesOfEach_get? apart matched up counted time settings.averaging store⟩

def portOnNode (node : String) (sent : UInt64) : Interface :=
  { (aliasedPort "").onNode node with
    traffic := .counters { PerCounter.missing with outOctets := some sent } }

def startOfBothNodes : SampleStore :=
  .ofList [(sampleKey .outOctets "1.eth0..a", ⟨0.0, 0.0⟩),
    (sampleKey .outOctets "1.eth0..b", ⟨0.0, 0.0⟩)]

theorem meantBy_portOnNode (sent other : UInt64) :
    Section.meantBy [portOnNode "a" sent, portOnNode "b" other] "eth0"
      CheckSettings.standard.discovered.naming =
      [portOnNode "a" sent, portOnNode "b" other] := by
  have sorted : Lookup.byNode Interface.attributes [portOnNode "a" sent, portOnNode "b" other] =
      [[portOnNode "a" sent], [portOnNode "b" other]] := by
    rw [Lookup.byNode,
      List.mergeSort_of_pairwise (by simp [portOnNode, Interface.onNode, Lookup.nodeLe])]
    rfl
  rw [Section.meantBy, Lookup.matchesIn, if_neg (by simp [portOnNode, Interface.onNode]), sorted]
  rfl

theorem busier_portOnNode :
    ∃ entries after,
      checkItem none "eth0" .standard [portOnNode "a" 500, portOnNode "b" 2000] 5.0
        startOfBothNodes = .ok (entries, after) ∧
        Check.outgoingTraffic? entries = some 400.0 ∧
        after.get? (sampleKey .outOctets "1.eth0..a") = some ⟨5.0, 500.0⟩ ∧
        after.get? (sampleKey .outOctets "1.eth0..b") = some ⟨5.0, 2000.0⟩ := by
  have meant := meantBy_portOnNode 500 2000
  obtain ⟨⟨rule, member, -⟩, -⟩ |
      ⟨reports, entries, after, reported, checked, busiest, stored⟩ :=
    @busiest_node_reported "eth0" .standard rfl [portOnNode "a" 500, portOnNode "b" 2000]
      5.0 startOfBothNodes
  · cases member
  rw [meant] at reported stored
  obtain ⟨a, _, first, others, rfl⟩ := List.forall₂_cons_left_iff.1 reported
  obtain ⟨b, _, second, nothing, rfl⟩ := List.forall₂_cons_left_iff.1 others
  cases List.forall₂_nil_left_iff.1 nothing
  have slow : Check.outgoingTraffic? a = some 100.0 := by
    cases first
    rfl
  have fast : Check.outgoingTraffic? b = some 400.0 := by
    cases second
    rfl
  have comparable : Check.Comparable [a, b] := by
    intro report member traffic shown
    rcases List.mem_pair.1 member with rfl | rfl
    · cases slow.symm.trans shown
      decide
    · cases fast.symm.trans shown
      decide
  have apart : [portOnNode "a" 500, portOnNode "b" 2000].Pairwise
      fun i j => i.attributes.storeKeys.Disjoint j.attributes.storeKeys := by
    refine List.pairwise_pair.2 fun key here there => ?_
    exact absurd ((Attributes.keys_meet_iff _ _).1 ⟨key, here, there⟩) (by decide)
  obtain ⟨traffic, before, after', parts, chosen, most, -⟩ :=
    busiest ⟨a, List.mem_cons_self, by rw [slow]; rfl⟩ comparable
  refine ⟨entries, after, checked, ?_, ?_, ?_⟩
  · have member : entries ∈ [a, b] := parts ▸ List.mem_append_right before List.mem_cons_self
    rcases List.mem_pair.1 member with rfl | rfl
    · cases slow.symm.trans chosen
      exact absurd (by decide) (most b (by simp) _ fast)
    · exact fast
  · exact stored apart (portOnNode "a" 500) (by simp) (by decide) .outOctets 500 rfl
  · exact stored apart (portOnNode "b" 2000) (by simp) (by decide) .outOctets 2000 rfl

end IfaceMonitor
