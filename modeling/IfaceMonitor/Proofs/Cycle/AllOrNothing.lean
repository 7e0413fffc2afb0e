import IfaceMonitor.Proofs.Check.InPlace
import IfaceMonitor.Proofs.Cycle.Retry

namespace IfaceMonitor

namespace CycleInput

def matchesOf (c : CycleInput) (service : Service) : List Interface :=
  match service.parameters.group with
  | some config => config.membersIn service.name c.interfaces
  | none => c.interfaces.meantBy service.name service.parameters.naming

def refusedFor? (c : CycleInput) : Option TrafficRule :=
  if c.services.isEmpty then none else c.settings.rulesInOrder.find? (·.levels.isPredictive)

structure Leaves (c : CycleInput) (host written : HostStore) : Prop where
  listed : ∀ item, (written.get? item).isSome = true ↔ item ∈ c.services.map (·.name)
  unmatched : ∀ item ∈ c.services.map (·.name),
    (∀ service ∈ c.services, service.name = item → c.matchesOf service = []) →
      written.get? item = some (host.samplesOf item)

end CycleInput

namespace Check

theorem samplesAfter_of_unmatched {item : String} {settings : CheckSettings} {c : CycleInput}
    {service : Service} (named : service.name = item) (unmatched : c.matchesOf service = [])
    (store : SampleStore) :
    samplesAfter item (settings.withDiscovered service.parameters) c.interfaces c.time store =
      store := by
  subst named
  unfold samplesAfter
  simp only [CycleInput.matchesOf, CheckSettings.withDiscovered] at unmatched ⊢
  cases group : service.parameters.group with
  | some config =>
    simp only [group] at unmatched ⊢
    rw [unmatched]
    rfl
  | none =>
    simp only [group] at unmatched ⊢
    rw [unmatched]
    rfl

end Check

namespace HostStore

theorem samplesAfterEach_of_unmatched {settings : CheckSettings} {c : CycleInput}
    {services : List Service} {item : String}
    (unmatched : ∀ service ∈ services, service.name = item → c.matchesOf service = [])
    (store : SampleStore) :
    samplesAfterEach settings c.interfaces c.time services item store = store := by
  induction services with
  | nil => rfl
  | cons first rest ih =>
    rw [samplesAfterEach_cons]
    have others := ih fun service hs => unmatched service (List.mem_cons_of_mem first hs)
    by_cases named : first.name = item
    · rw [if_pos named,
        Check.samplesAfter_of_unmatched named (unmatched first List.mem_cons_self named), others]
    · rw [if_neg named, others]

theorem items_of_checkEach {settings : CheckSettings} {interfaces : Section} {time : Float}
    {services : List Service} {host after : HostStore} {reports : List ItemReport}
    (h : checkEach settings interfaces time services host = .ok (reports, after)) :
    reports.map (·.item) = services.map (·.name) := by
  induction services generalizing host reports with
  | nil =>
    cases h
    rfl
  | cons first rest ih =>
    obtain ⟨entries, store, others, -, hrest, rfl⟩ := checkEach_cons h
    rw [List.map_cons, List.map_cons, ih hrest]
    rfl

theorem items_of_cycle {settings : CheckSettings} {interfaces : Section} {time : Float}
    {services : List Service} {host after : HostStore} {reports : List ItemReport}
    (h : host.cycle services settings interfaces time = .ok (reports, after)) :
    reports.map (·.item) = services.map (·.name) := by
  obtain ⟨⟨reported, left⟩, checked, same⟩ := bind_eq_ok.1 h
  cases same
  exact items_of_checkEach checked

theorem cycle_of_unrefused {c : CycleInput} (unrefused : c.refusedFor? = none) (host : HostStore) :
    ∃ reports written,
      host.cycle c.services c.settings c.interfaces c.time = .ok (reports, written) ∧
      reports.map (·.item) = c.services.map (·.name) ∧ c.Leaves host written := by
  by_cases nothing : c.services = []
  · have done : host.cycle c.services c.settings c.interfaces c.time =
        .ok ([], host.retain []) := by
      rw [nothing]
      rfl
    refine ⟨[], host.retain [], done, items_of_cycle done, ?_, ?_⟩
    · intro item
      simp [nothing, get?_retain]
    · simp [nothing]
  · have required : Check.requireComparator none c.settings = .ok () := by
      rw [Check.requireComparator_eq_ok]
      rw [CycleInput.refusedFor?, if_neg (by simpa using nothing)] at unrefused
      simpa using unrefused
    obtain ⟨reports, written, done, stored⟩ :=
      cycle_get? required c.interfaces c.time c.services host
    refine ⟨reports, written, done, items_of_cycle done, ?_, ?_⟩
    · intro item
      rw [stored item]
      split
      · next listed => simpa using listed
      · next unlisted => simpa using unlisted
    · intro item listed unmatched
      rw [stored item, if_pos listed, samplesAfterEach_of_unmatched unmatched]

theorem cycle_of_refused {c : CycleInput} {rule : TrafficRule} (refused : c.refusedFor? = some rule)
    (host : HostStore) :
    host.cycle c.services c.settings c.interfaces c.time =
      .error (.predictiveWithoutComparator rule.direction) := by
  rw [CycleInput.refusedFor?] at refused
  split at refused
  · cases refused
  · next filled =>
    obtain ⟨first, rest, services⟩ :=
      List.exists_cons_of_ne_nil (by simpa using filled : c.services ≠ [])
    have required : Check.requireComparator none (c.settings.withDiscovered first.parameters) =
        .error (.predictiveWithoutComparator rule.direction) := by
      rw [Check.requireComparator_withDiscovered]
      exact Check.requireComparator_eq_error.2 ⟨rule, ⟨rfl, refused⟩, rfl⟩
    rw [services, cycle, checkEach, checkItem, required]
    rfl

end HostStore

/-- A cycle fails if nothing can be loaded, if some services are to be checked under a predictive
rule, or if the new state cannot be persisted. In the first two cases it ends as loading left it; in
all others each service has its report, and what is handed to the persister has a store for each
listed item and for no other. -/
theorem cycle_all_or_nothing {σ ε : Type} (persister : Persister (StateM σ) ε) (c : CycleInput)
    (s : σ) :
    match persister.load s with
    | (.error cause, loaded) => c.run persister s = (.error (.storage cause), loaded)
    | (.ok host, loaded) =>
      match c.refusedFor? with
      | some rule =>
        c.run persister s = (.error (.config (.predictiveWithoutComparator rule.direction)), loaded)
      | none =>
        ∃ reports written, reports.map (·.item) = c.services.map (·.name) ∧
          c.Leaves host written ∧
          c.run persister s =
            match persister.persist written loaded with
            | (.error cause, after) => (.error (.storage cause), after)
            | (.ok (), after) => (.ok reports, after) := by
  rw [run_apply]
  rcases persister.load s with ⟨cause | host, loaded⟩
  · rfl
  · cases refused : c.refusedFor? with
    | some rule => simp only [HostStore.cycle_of_refused refused]
    | none =>
      obtain ⟨reports, written, done, items, leaves⟩ :=
        HostStore.cycle_of_unrefused refused host
      refine ⟨reports, written, items, leaves, ?_⟩
      rcases handed : persister.persist written loaded with ⟨cause | stored, after⟩ <;>
        simp only [done, handed]

end IfaceMonitor
