import IfaceMonitor.Proofs.Check.Success
import IfaceMonitor.Proofs.Cycle.History

namespace IfaceMonitor

namespace HostStore

def storeEach (stores : Service → SampleStore) (services : List Service) (host : HostStore) :
    HostStore :=
  services.foldl (fun host service => host.insert service.name (stores service)) host

theorem apart_cons {first : Service} {rest : List Service}
    (distinct : ((first :: rest).map (·.name)).Nodup) :
    (∀ service ∈ rest, first.name ≠ service.name) ∧ (rest.map (·.name)).Nodup := by
  obtain ⟨fresh, distinct⟩ := List.nodup_cons.1 distinct
  exact ⟨fun service hs same => fresh (List.mem_map.2 ⟨service, hs, same.symm⟩), distinct⟩

theorem get?_storeEach {stores : Service → SampleStore} {services : List Service}
    (host : HostStore) (distinct : (services.map (·.name)).Nodup) (name : String)
    (store : SampleStore) :
    (storeEach stores services host).get? name = some store ↔
      (∃ service ∈ services, service.name = name ∧ stores service = store) ∨
        name ∉ services.map (·.name) ∧ host.get? name = some store := by
  induction services generalizing host with
  | nil => simp [storeEach]
  | cons first rest ih =>
    obtain ⟨apart, distinct⟩ := apart_cons distinct
    have others := ih (host.insert first.name (stores first)) distinct
    rw [storeEach, List.foldl_cons, ← storeEach, others, Table.get?_insert]
    simp only [List.map_cons, List.mem_cons, exists_eq_or_imp, List.mem_map]
    by_cases named : first.name = name
    · subst named
      simp only [if_pos]
      grind
    · simp only [if_neg named]
      grind

theorem retain_storeEach {stores : Service → SampleStore} {services : List Service}
    {host : HostStore} (distinct : (services.map (·.name)).Nodup) :
    (storeEach stores services host).retain (services.map (·.name)) =
      storeEach stores services .empty := by
  apply Table.ext_get?
  intro name
  ext store
  rw [get?_retain, get?_storeEach _ distinct]
  by_cases listed : name ∈ services.map (·.name)
  · rw [if_pos listed, get?_storeEach _ distinct]
    simp only [listed, not_true_eq_false, false_and, or_false]
  · rw [if_neg listed]
    have absent : ¬∃ service ∈ services, service.name = name ∧ stores service = store := by
      rintro ⟨service, hs, rfl, -⟩
      exact listed (List.mem_map_of_mem hs)
    simp [absent]

theorem storeEach_perm {stores : Service → SampleStore} {services permuted : List Service}
    (same : permuted.Perm services) (distinct : (services.map (·.name)).Nodup) :
    storeEach stores permuted .empty = storeEach stores services .empty := by
  have names := same.map (·.name)
  apply Table.ext_get?
  intro name
  ext store
  rw [get?_storeEach _ distinct, get?_storeEach _ (names.nodup_iff.2 distinct), names.mem_iff]
  simp only [same.mem_iff]

def checkOf (settings : CheckSettings) (interfaces : Section) (time : Float) (host : HostStore)
    (service : Service) : Except ConfigError (List Entry × SampleStore) :=
  checkItem none service.name (settings.withDiscovered service.parameters) interfaces time
    (host.samplesOf service.name)

theorem checkOf_succeeds {settings : CheckSettings}
    (required : Check.requireComparator none settings = .ok ()) (interfaces : Section)
    (time : Float) (host : HostStore) (service : Service) :
    ∃ outcome, checkOf settings interfaces time host service = .ok outcome := by
  rw [← Check.requireComparator_withDiscovered none settings service.parameters] at required
  obtain ⟨entries, checked⟩ :=
    Check.checkItem_succeeds required service.name interfaces time (host.samplesOf service.name)
  rw [checkOf, checked]
  exact ⟨_, rfl⟩

section Cycle
variable {settings : CheckSettings} {interfaces : Section} {time : Float} {services : List Service}
  {host : HostStore} {outcome : Service → List Entry × SampleStore}

def reportOf (outcome : Service → List Entry × SampleStore) (service : Service) : ItemReport :=
  .ofEntries service.name (outcome service).1

theorem checkEach_eq (distinct : (services.map (·.name)).Nodup)
    (checked : ∀ service ∈ services, checkOf settings interfaces time host service =
      .ok (outcome service)) :
    checkEach settings interfaces time services host =
      .ok (services.map (reportOf outcome),
        storeEach (fun service => (outcome service).2) services host) := by
  induction services generalizing host with
  | nil => rfl
  | cons first rest ih =>
    obtain ⟨apart, distinct⟩ := apart_cons distinct
    have own : checkItem none first.name (settings.withDiscovered first.parameters) interfaces time
        (host.samplesOf first.name) = .ok (outcome first) := checked first List.mem_cons_self
    -- The others have other names, so they do not see what the first one leaves.
    have unseen : ∀ service ∈ rest,
        checkOf settings interfaces time (host.insert first.name (outcome first).2) service =
            .ok (outcome service) := by
      intro service hs
      rw [checkOf, samplesOf_insert_of_ne (apart service hs)]
      exact checked service (List.mem_cons_of_mem first hs)
    rw [checkEach]
    exact bind_eq_ok.2 ⟨_, own, bind_eq_ok.2 ⟨_, ih distinct unseen, rfl⟩⟩

theorem cycle_eq (distinct : (services.map (·.name)).Nodup)
    (checked : ∀ service ∈ services, checkOf settings interfaces time host service =
      .ok (outcome service)) :
    host.cycle services settings interfaces time =
      .ok (services.map (reportOf outcome),
        storeEach (fun service => (outcome service).2) services .empty) := by
  rw [cycle, checkEach_eq distinct checked]
  simp only [bind, Except.bind, retain_storeEach distinct]
  rfl

theorem outcomes_of_cycle {reports : List ItemReport} {after : HostStore}
    (distinct : (services.map (·.name)).Nodup)
    (h : host.cycle services settings interfaces time = .ok (reports, after)) :
    ∃ outcome : Service → List Entry × SampleStore,
      (∀ service ∈ services, checkOf settings interfaces time host service =
        .ok (outcome service)) ∧
        reports = services.map (reportOf outcome) ∧
        after = storeEach (fun service => (outcome service).2) services .empty := by
  have each : ∃ outcome : Service → List Entry × SampleStore,
      ∀ service ∈ services, checkOf settings interfaces time host service =
          .ok (outcome service) := by
    cases services with
    | nil => exact ⟨fun _ => ([], .empty), fun _ hs => absurd hs List.not_mem_nil⟩
    | cons service rest =>
      choose outcome checked using checkOf_succeeds (required_of_cycle h) interfaces time host
      exact ⟨outcome, fun service _ => checked service⟩
  obtain ⟨outcome, checked⟩ := each
  rw [cycle_eq distinct checked] at h
  cases h
  exact ⟨outcome, checked, rfl, rfl⟩

end Cycle

end HostStore

/-- In a cycle that succeeds over services with different names, each service has a report and a
store of its own. A run on the service alone from the same state gives both again, unless this one
store cannot be persisted; and a run on the services in any other order gives the reports in that
order and the same state. -/
theorem services_independent {σ ε : Type} {persister : Persister (StateM σ) ε}
    {kept : σ → HostStore} (keeps : persister.Keeps kept) {c : CycleInput}
    (distinct : (c.services.map (·.name)).Nodup) {s after : σ} {reports : List ItemReport}
    (succeeds : c.run persister s = (.ok reports, after)) :
    ∃ reportOf : Service → ItemReport, reports = c.services.map reportOf ∧
      (∀ service ∈ c.services, ∃ store, (kept after).get? service.name = some store ∧
        ∀ outcome alone, { c with services := [service] }.run persister s = (outcome, alone) →
          (outcome = .ok [reportOf service] ∧ (kept alone).get? service.name = some store) ∨
            ∃ cause, outcome = .error (.storage cause) ∧
              (persister.persist (Table.empty.insert service.name store) (persister.load s).2).1 =
                .error cause) ∧
      ∀ permuted, permuted.Perm c.services →
        { c with services := permuted }.run persister s = (.ok (permuted.map reportOf), after) := by
  obtain ⟨host, written, loaded, hcycle, persisted⟩ := run_eq_ok succeeds
  obtain rfl := keeps.load_ok s host loaded
  obtain ⟨outcome, checked, rfl, rfl⟩ := HostStore.outcomes_of_cycle distinct hcycle
  have stored := keeps.persist_ok _ (persister.load s).2 (by rw [persisted])
  rw [persisted] at stored
  refine ⟨HostStore.reportOf outcome, rfl, ?_, ?_⟩
  · intro service hs
    refine ⟨(outcome service).2, ?_, ?_⟩
    · rw [stored, HostStore.get?_storeEach _ distinct]
      exact Or.inl ⟨service, hs, rfl, rfl⟩
    · have single : (kept s).cycle [service] c.settings c.interfaces c.time =
          .ok ([HostStore.reportOf outcome service],
              Table.empty.insert service.name (outcome service).2) :=
        HostStore.cycle_eq (List.nodup_singleton service.name) fun other ho =>
          checked other (List.mem_singleton.1 ho ▸ hs)
      intro result alone hrun
      cases result with
      | ok reports =>
        have own := run_ok keeps hrun
        rw [single] at own
        obtain ⟨rfl, left⟩ := Prod.mk.inj (Except.ok.inj own)
        refine Or.inl ⟨rfl, ?_⟩
        rw [← left, Table.get?_insert, if_pos rfl]
      | error cause =>
        obtain ⟨fault, rfl, failed⟩ := run_error_of_cycle keeps single hrun
        exact Or.inr ⟨fault, rfl, failed.resolve_left (by simp [loaded])⟩
  · intro permuted same
    -- The stores go into a table by name, which does not show the order of the services.
    have reordered : (kept s).cycle permuted c.settings c.interfaces c.time =
        .ok (permuted.map (HostStore.reportOf outcome),
          HostStore.storeEach (fun service => (outcome service).2) permuted .empty) :=
      HostStore.cycle_eq ((same.map (·.name)).nodup_iff.2 distinct) fun service hs =>
        checked service (same.mem_iff.1 hs)
    rw [HostStore.storeEach_perm same distinct] at reordered
    rw [run_of_cycle loaded reordered, persisted]

namespace CycleInput

def described : Service := ⟨"eth0", .none, .empty⟩

def numbered : Service := ⟨"1", .none, .empty⟩

end CycleInput

open CycleInput in
theorem port_services_apart :
    ((ofPort 5.0 .up 2000).services.map (·.name)).Nodup ∧
      ∃ (reportOf : Service → ItemReport) (after : HostStore) (store : SampleStore)
        (alone : HostStore),
        (ofPort 5.0 .up 2000).run .memory (history .memory [ofPort 0.0 .up 1000] .empty).2 =
            (.ok [reportOf described, reportOf numbered], after) ∧
          { ofPort 5.0 .up 2000 with services := [numbered] }.run .memory
              (history .memory [ofPort 0.0 .up 1000] .empty).2 =
                (.ok [reportOf numbered], alone) ∧
          after.get? "1" = some store ∧ alone.get? "1" = some store ∧
          { ofPort 5.0 .up 2000 with services := [numbered, described] }.run .memory
              (history .memory [ofPort 0.0 .up 1000] .empty).2 =
                (.ok [reportOf numbered, reportOf described], after) := by
  have distinct : ((ofPort 5.0 .up 2000).services.map (·.name)).Nodup := by decide
  obtain ⟨reports, after, succeeds⟩ : ∃ reports after, (ofPort 5.0 .up 2000).run .memory
      (history .memory [ofPort 0.0 .up 1000] .empty).2 = (.ok reports, after) := ⟨_, _, rfl⟩
  obtain ⟨reportOf, rfl, alone, permuted⟩ :=
    services_independent Persister.memory_keeps distinct succeeds
  obtain ⟨store, kept, outcome⟩ :=
    alone numbered (List.mem_cons_of_mem described (List.mem_singleton_self numbered))
  rcases outcome _ _ rfl with ⟨reported, same⟩ | ⟨cause, -, -⟩
  · exact ⟨distinct, reportOf, after, store, _, succeeds, Prod.ext reported rfl, kept, same,
      permuted [numbered, described] (List.Perm.swap described numbered [])⟩
  · cases cause

end IfaceMonitor
