import IfaceMonitor.Cycle
import IfaceMonitor.Proofs.Outcome

namespace IfaceMonitor

namespace HostStore
variable {settings : CheckSettings} {interfaces : Section} {time : Float} {item : String}

theorem samplesOf_insert_of_ne {host : HostStore} {name : String} (h : name ≠ item)
    (store : SampleStore) :
    samplesOf (host.insert name store) item = host.samplesOf item := by
  simp only [samplesOf, Table.get?_insert, if_neg h]

theorem samplesOf_insert_self (host : HostStore) (name : String) (store : SampleStore) :
    samplesOf (host.insert name store) name = store := by
  rw [samplesOf, Table.get?_insert, if_pos rfl, Option.getD_some]

theorem get?_retain (host : HostStore) (items : List String) (item : String) :
    (host.retain items).get? item = if item ∈ items then host.get? item else none := by
  simp only [retain, Table.get?_filterKeys, List.contains_iff_mem]

theorem checkEach_cons {service : Service} {rest : List Service} {host after : HostStore}
    {reports : List ItemReport}
    (h : checkEach settings interfaces time (service :: rest) host = .ok (reports, after)) :
    ∃ entries store others,
      checkItem none service.name (settings.withDiscovered service.parameters) interfaces time
          (host.samplesOf service.name) = .ok (entries, store) ∧
        checkEach settings interfaces time rest (host.insert service.name store) =
          .ok (others, after) ∧
        reports = .ofEntries service.name entries :: others := by
  simp only [checkEach, bind_eq_ok, pure_eq_ok] at h
  obtain ⟨⟨entries, store⟩, hcheck, ⟨others, host'⟩, hrest, h⟩ := h
  cases h
  exact ⟨entries, store, others, hcheck, hrest, rfl⟩

theorem required_of_cycle {service : Service} {rest : List Service} {host after : HostStore}
    {reports : List ItemReport}
    (h : host.cycle (service :: rest) settings interfaces time = .ok (reports, after)) :
    Check.requireComparator none settings = .ok () := by
  obtain ⟨⟨others, checked⟩, each, -⟩ := bind_eq_ok.1 h
  obtain ⟨entries, store, -, own, -⟩ := checkEach_cons each
  obtain ⟨done, required, -⟩ := bind_eq_ok.1 own
  exact required

theorem checkEach_absent {services : List Service} {host after : HostStore}
    {reports : List ItemReport} (absent : services.filter (·.name == item) = [])
    (h : checkEach settings interfaces time services host = .ok (reports, after)) :
    after.get? item = host.get? item ∧ reports.filter (·.item == item) = [] := by
  induction services generalizing host reports with
  | nil =>
    cases h
    exact ⟨rfl, rfl⟩
  | cons service rest ih =>
    obtain ⟨entries, store, others, -, hrest, rfl⟩ := checkEach_cons h
    have other : ¬service.name = item := fun heq => by simp [heq] at absent
    rw [List.filter_cons_of_neg (by simpa using other)] at absent
    obtain ⟨kept, none⟩ := ih absent hrest
    refine ⟨?_, ?_⟩
    · rw [kept, Table.get?_insert, if_neg other]
    · rw [List.filter_cons_of_neg (by simpa [ItemReport.ofEntries] using other), none]

theorem checkEach_alone {services : List Service} {service : Service} {host after : HostStore}
    {reports : List ItemReport} (once : services.filter (·.name == item) = [service])
    (h : checkEach settings interfaces time services host = .ok (reports, after)) :
    ∃ entries store,
      checkItem none item (settings.withDiscovered service.parameters) interfaces time
        (host.samplesOf item) =
          .ok (entries, store) ∧
        after.get? item = some store ∧
          reports.filter (·.item == item) = [.ofEntries item entries] := by
  induction services generalizing host reports with
  | nil => cases once
  | cons first rest ih =>
    obtain ⟨entries, store, others, hcheck, hrest, rfl⟩ := checkEach_cons h
    by_cases named : first.name = item
    · rw [List.filter_cons_of_pos (by simpa using named), List.cons.injEq] at once
      obtain ⟨rfl, absent⟩ := once
      obtain ⟨kept, none⟩ := checkEach_absent absent hrest
      subst named
      refine ⟨entries, store, hcheck, ?_, ?_⟩
      · rw [kept, Table.get?_insert, if_pos rfl]
      · rw [List.filter_cons_of_pos (by simp [ItemReport.ofEntries]), none]
    · rw [List.filter_cons_of_neg (by simpa using named)] at once
      obtain ⟨entries', store', hcheck', kept, reported⟩ := ih once hrest
      rw [samplesOf_insert_of_ne named] at hcheck'
      refine ⟨entries', store', hcheck', kept, ?_⟩
      rw [List.filter_cons_of_neg (by simpa [ItemReport.ofEntries] using named), reported]

theorem cycle_alone {services : List Service} {service : Service} {host after : HostStore}
    {reports : List ItemReport} (once : services.filter (·.name == item) = [service])
    (h : host.cycle services settings interfaces time = .ok (reports, after)) :
    ∃ entries,
      checkItem none item (settings.withDiscovered service.parameters) interfaces time
        (host.samplesOf item) =
          .ok (entries, after.samplesOf item) ∧
        reports.filter (·.item == item) = [.ofEntries item entries] := by
  simp only [cycle, bind_eq_ok, pure_eq_ok] at h
  obtain ⟨⟨reports', host'⟩, hchecks, h⟩ := h
  cases h
  obtain ⟨entries, store, hcheck, kept, reported⟩ := checkEach_alone once hchecks
  have listed : item ∈ services.map (·.name) := by
    have member : service ∈ services.filter (·.name == item) := by
      rw [once]; exact List.mem_singleton_self service
    obtain ⟨hs, named⟩ := List.mem_filter.1 member
    exact List.mem_map.2 ⟨service, hs, by simpa using named⟩
  have retained : samplesOf (host'.retain (services.map (·.name))) item = store := by
    rw [samplesOf, get?_retain, if_pos listed, kept, Option.getD_some]
  exact ⟨entries, by rw [retained]; exact hcheck, reported⟩

end HostStore

end IfaceMonitor
