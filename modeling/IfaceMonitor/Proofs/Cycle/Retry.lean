import IfaceMonitor.Proofs.Check.Success
import IfaceMonitor.Proofs.Cycle.History
import IfaceMonitor.Proofs.Rate.Repetition

namespace IfaceMonitor

namespace Check
variable {time : Float} (finite : time.isFinite = true)
include finite

theorem measureUnlessDown_repeatable (averaging : Averaging) (i : Interface) :
    Repeatable time fun store => (measureUnlessDown i time averaging store).2 := by
  by_cases down : i.attributes.operStatus.isDown = true
  · simp only [measureUnlessDown, if_pos down]
    exact Repeatable.id
  · simp only [measureUnlessDown, if_neg down]
    exact Measured.measure_repeatable finite averaging i

theorem samplesAfter_repeatable (item : String) (settings : CheckSettings) (interfaces : Section) :
    Repeatable time (samplesAfter item settings interfaces time) := by
  unfold samplesAfter
  cases settings.discovered.group with
  | some config =>
    exact Measured.measureAll_repeatable finite settings.averaging
      (config.membersIn item interfaces)
  | none =>
    exact Repeatable.foldl fun i _ => measureUnlessDown_repeatable finite settings.averaging i

end Check

namespace HostStore
variable {settings : CheckSettings} {interfaces : Section} {time : Float}

def samplesAfterEach (settings : CheckSettings) (interfaces : Section) (time : Float)
    (services : List Service) (item : String) (store : SampleStore) : SampleStore :=
  (services.filter (·.name == item)).foldl
    (fun store service =>
      Check.samplesAfter item (settings.withDiscovered service.parameters) interfaces time store)
      store

theorem samplesAfterEach_repeatable (finite : time.isFinite = true) (services : List Service)
    (item : String) :
    Repeatable time (samplesAfterEach settings interfaces time services item) :=
  Repeatable.foldl fun service _ =>
    Check.samplesAfter_repeatable finite item
      (settings.withDiscovered service.parameters) interfaces

theorem samplesAfterEach_unlisted {services : List Service} {item : String}
    (unlisted : item ∉ services.map (·.name)) (store : SampleStore) :
    samplesAfterEach settings interfaces time services item store = store := by
  have none : services.filter (·.name == item) = [] := by
    rw [List.filter_eq_nil_iff]
    intro service hs same
    exact unlisted (List.mem_map.2 ⟨service, hs, beq_iff_eq.1 same⟩)
  rw [samplesAfterEach, none, List.foldl_nil]

theorem samplesAfterEach_cons (first : Service) (rest : List Service) (item : String)
    (store : SampleStore) :
    samplesAfterEach settings interfaces time (first :: rest) item store =
      samplesAfterEach settings interfaces time rest item
        (if first.name = item then
          Check.samplesAfter item (settings.withDiscovered first.parameters) interfaces time store
        else store) := by
  unfold samplesAfterEach
  by_cases named : first.name = item
  · rw [if_pos named, List.filter_cons_of_pos (by simpa using named), List.foldl_cons]
  · rw [if_neg named, List.filter_cons_of_neg (by simpa using named)]

theorem checkEach_succeeds (required : Check.requireComparator none settings = .ok ())
    (services : List Service) (host : HostStore) :
    ∃ reports after, checkEach settings interfaces time services host = .ok (reports, after) ∧
      ∀ item, after.get? item =
        if item ∈ services.map (·.name) then
          some (samplesAfterEach settings interfaces time services item (host.samplesOf item))
        else host.get? item := by
  induction services generalizing host with
  | nil => exact ⟨[], host, rfl, fun _ => rfl⟩
  | cons first rest ih =>
    let own := settings.withDiscovered first.parameters
    let left := Check.samplesAfter first.name own interfaces time (host.samplesOf first.name)
    have answered : Check.requireComparator none own = .ok () := by
      rw [Check.requireComparator_withDiscovered, required]
    obtain ⟨entries, checked⟩ :=
      Check.checkItem_succeeds answered first.name interfaces time (host.samplesOf first.name)
    obtain ⟨reports, after, others, stored⟩ := ih (host.insert first.name left)
    refine ⟨.ofEntries first.name entries :: reports, after, ?_, fun item => ?_⟩
    · rw [checkEach]
      exact bind_eq_ok.2 ⟨_, checked, bind_eq_ok.2 ⟨_, others, rfl⟩⟩
    · rw [stored item, samplesAfterEach_cons, List.map_cons]
      by_cases named : first.name = item
      · subst named
        rw [samplesOf_insert_self, if_pos rfl, if_pos List.mem_cons_self]
        by_cases listed : first.name ∈ rest.map (·.name)
        · rw [if_pos listed]
        · rw [if_neg listed, samplesAfterEach_unlisted listed, Table.get?_insert, if_pos rfl]
      · rw [samplesOf_insert_of_ne named, Table.get?_insert, if_neg named, if_neg named]
        simp only [List.mem_cons, Ne.symm named, false_or]

theorem cycle_get? (required : Check.requireComparator none settings = .ok ())
    (interfaces : Section) (time : Float) (services : List Service) (host : HostStore) :
    ∃ reports after, host.cycle services settings interfaces time = .ok (reports, after) ∧
      ∀ item, after.get? item =
        if item ∈ services.map (·.name) then
          some (samplesAfterEach settings interfaces time services item (host.samplesOf item))
        else none := by
  obtain ⟨reports, after, checked, stored⟩ := checkEach_succeeds required services host
  refine ⟨reports, after.retain (services.map (·.name)), ?_, fun item => ?_⟩
  · rw [cycle, checked]
    rfl
  · rw [get?_retain, stored item]
    by_cases listed : item ∈ services.map (·.name)
    · rw [if_pos listed, if_pos listed, if_pos listed]
    · rw [if_neg listed, if_neg listed]

theorem cycle_again (finite : time.isFinite = true) {services : List Service}
    {host after : HostStore} {reports : List ItemReport}
    (h : host.cycle services settings interfaces time = .ok (reports, after)) :
    ∃ again, after.cycle services settings interfaces time = .ok (again, after) := by
  cases services with
  | nil =>
    cases h
    have empty : (host.retain []).retain [] = host.retain [] := by
      apply Table.ext_get?
      intro item
      simp [get?_retain]
    exact ⟨[], congrArg (fun left => Except.ok ([], left)) empty⟩
  | cons service rest =>
    have required := required_of_cycle h
    obtain ⟨first, left, checked, stored⟩ :=
      cycle_get? required interfaces time (service :: rest) host
    rw [checked] at h
    cases h
    obtain ⟨again, final, rechecked, restored⟩ :=
      cycle_get? required interfaces time (service :: rest) after
    have same : final = after := by
      apply Table.ext_get?
      intro item
      rw [restored item, stored item]
      by_cases listed : item ∈ (service :: rest).map (·.name)
      · have own : after.samplesOf item =
            samplesAfterEach settings interfaces time (service :: rest) item
                (host.samplesOf item) := by
          rw [samplesOf, stored item, if_pos listed, Option.getD_some]
        rw [if_pos listed, if_pos listed, own,
          (samplesAfterEach_repeatable finite (service :: rest) item).idempotent]
      · rw [if_neg listed, if_neg listed]
    exact ⟨again, same ▸ rechecked⟩

end HostStore

/-- A cycle that succeeded, run again on the state that it left: all samples and averages stay as
they are. The checks succeed and hand the same host store to the persister, so nothing but an access
to the persister can fail. -/
theorem retry_keeps_samples {σ ε : Type} {persister : Persister (StateM σ) ε}
    {kept : σ → HostStore} (keeps : persister.Keeps kept) {c : CycleInput}
    (finite : c.time.isFinite = true) {s after : σ} {reports : List ItemReport}
    (succeeds : c.run persister s = (.ok reports, after))
    {outcome : Except (CycleError ε) (List ItemReport)} {final : σ}
    (retried : c.run persister after = (outcome, final)) :
    kept final = kept after ∧
      ((∃ again, outcome = .ok again) ∨
        ∃ cause, outcome = .error (.storage cause) ∧
          ((persister.load after).1 = .error cause ∨
            (persister.persist (kept after) (persister.load after).2).1 = .error cause)) := by
  obtain ⟨again, hcycle⟩ := HostStore.cycle_again finite (run_ok keeps succeeds)
  cases outcome with
  | ok reports =>
    have rechecked := run_ok keeps retried
    rw [hcycle] at rechecked
    obtain ⟨-, same⟩ := Prod.mk.inj (Except.ok.inj rechecked)
    exact ⟨same.symm, Or.inl ⟨reports, rfl⟩⟩
  | error cause =>
    obtain ⟨fault, rfl, failed⟩ := run_error_of_cycle keeps hcycle retried
    exact ⟨run_error keeps retried, Or.inr ⟨fault, rfl, failed⟩⟩

open CycleInput in
theorem retry_averaged_port :
    (ofPort 5.0 .up 2000).time.isFinite = true ∧ ∃ reports after again,
      (ofPort 5.0 .up 2000).run .memory
        (history .memory [ofPort 0.0 .up 1000, ofPort 2.0 .up 1500] .empty).2 =
          (.ok reports, after) ∧
        (ofPort 5.0 .up 2000).run .memory after = (.ok again, after) := by
  have finite : (ofPort 5.0 .up 2000).time.isFinite = true := by decide +kernel
  obtain ⟨reports, after, succeeds⟩ : ∃ reports after, (ofPort 5.0 .up 2000).run .memory
      (history .memory [ofPort 0.0 .up 1000, ofPort 2.0 .up 1500] .empty).2 =
        (.ok reports, after) := ⟨_, _, rfl⟩
  obtain ⟨outcome, final, retried⟩ : ∃ outcome final,
      (ofPort 5.0 .up 2000).run .memory after = (outcome, final) :=
    ⟨_, _, rfl⟩
  obtain ⟨same, ⟨again, rfl⟩ | ⟨fault, -, -⟩⟩ :=
    retry_keeps_samples Persister.memory_keeps finite succeeds retried
  · obtain rfl : final = after := same
    exact ⟨finite, reports, final, again, succeeds, retried⟩
  · cases fault

end IfaceMonitor
