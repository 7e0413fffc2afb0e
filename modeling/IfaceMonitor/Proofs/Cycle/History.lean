import IfaceMonitor.Proofs.Check.Lookup
import IfaceMonitor.Proofs.Check.Matches
import IfaceMonitor.Proofs.Check.Metrics
import IfaceMonitor.Proofs.Cycle.Isolation
import IfaceMonitor.Proofs.Rate.Observation

/-!
Cycles one after the other over one persister. Cycles that fail leave what is stored as it is; after
the others, the stored sample of a counter is that of the latest cycle in which the item reported
the counter (`history_remembers`), so the reported rate is the change since that cycle, whatever
happened in between (`incoming_traffic_of_history`).
-/

namespace IfaceMonitor

structure CycleInput where
  services : List Service
  settings : CheckSettings
  interfaces : Section
  time : Float

namespace CycleInput

def run {m : Type → Type} {ε : Type} [Monad m] (persister : Persister m ε) (c : CycleInput) :
    m (Except (CycleError ε) (List ItemReport)) :=
  runCycle persister c.services c.settings c.interfaces c.time

def meant (c : CycleInput) (item : String) : List Interface :=
  (c.services.filter (·.name == item)).flatMap fun s =>
    c.interfaces.meantBy item s.parameters.naming

def count? (c : CycleInput) (item : String) (counter : Counter) : Option UInt64 :=
  (c.meant item).findSome? fun i =>
    if i.attributes.operStatus.isDown then none else i.count? counter

def reading? (c : CycleInput) (item : String) (counter : Counter) : Option (Float × UInt64) :=
  (c.count? item counter).map (c.time, ·)

/-- The item is one service of a single host in this cycle, no group, and means no interface but
those of an identity. -/
structure Monitors (c : CycleInput) (item identity : String) : Prop where
  once : ∃ service, c.services.filter (·.name == item) = [service] ∧
    service.parameters.group = none
  plain : c.interfaces.Plain
  identical : ∀ i ∈ c.meant item, i.attributes.identity = identity

end CycleInput

/-- A persister over a state whose part `kept` is what was persisted last; each access may fail, and
then keeps it. -/
structure Persister.Keeps {σ ε : Type} (persister : Persister (StateM σ) ε)
    (kept : σ → HostStore) : Prop where
  load_kept : ∀ s, kept (persister.load s).2 = kept s
  load_ok : ∀ s host, (persister.load s).1 = .ok host → host = kept s
  persist_ok : ∀ host s, (persister.persist host s).1 = .ok () →
    kept (persister.persist host s).2 = host
  persist_error : ∀ host s cause, (persister.persist host s).1 = .error cause →
    kept (persister.persist host s).2 = kept s

def history {σ ε : Type} (persister : Persister (StateM σ) ε) :
    List CycleInput → σ → List CycleInput × σ
  | [], s => ([], s)
  | c :: rest, s =>
    match c.run persister s with
    | (.ok _, s) => (c :: (history persister rest s).1, (history persister rest s).2)
    | (.error _, s) => history persister rest s

section Run
variable {σ ε : Type} {persister : Persister (StateM σ) ε} {kept : σ → HostStore}

theorem run_apply (persister : Persister (StateM σ) ε) (c : CycleInput) (s : σ) :
    c.run persister s =
      match persister.load s with
      | (.error cause, s) => (.error (.storage cause), s)
      | (.ok host, s) =>
        match host.cycle c.services c.settings c.interfaces c.time with
        | .error cause => (.error (.config cause), s)
        | .ok (reports, after) =>
          match persister.persist after s with
          | (.error cause, s) => (.error (.storage cause), s)
          | (.ok (), s) => (.ok reports, s) := by
  simp only [CycleInput.run, runCycle, bind, StateT.bind]
  rcases persister.load s with ⟨cause | host, s₁⟩
  · rfl
  · dsimp only
    rcases host.cycle c.services c.settings c.interfaces c.time with cause | ⟨reports, after⟩
    · rfl
    · simp only [StateT.bind]
      rcases persister.persist after s₁ with ⟨cause | done, s₂⟩ <;> rfl

theorem run_eq_ok {c : CycleInput} {s after : σ} {reports : List ItemReport}
    (h : c.run persister s = (.ok reports, after)) :
    ∃ host written, (persister.load s).1 = .ok host ∧
      host.cycle c.services c.settings c.interfaces c.time = .ok (reports, written) ∧
      persister.persist written (persister.load s).2 = (.ok (), after) := by
  rw [run_apply] at h
  rcases hload : persister.load s with ⟨cause | host, s₁⟩
  · simp only [hload] at h
    cases h
  · simp only [hload] at h
    rcases hcycle : host.cycle c.services c.settings c.interfaces c.time
      with cause | ⟨reports', written⟩
    · simp only [hcycle] at h
      cases h
    · simp only [hcycle] at h
      rcases hpersist : persister.persist written s₁ with ⟨cause | done, s₂⟩
      · simp only [hpersist] at h
        cases h
      · simp only [hpersist] at h
        cases h
        exact ⟨host, written, rfl, hcycle, hpersist⟩

theorem run_ok (keeps : persister.Keeps kept) {c : CycleInput} {s after : σ}
    {reports : List ItemReport} (h : c.run persister s = (.ok reports, after)) :
    (kept s).cycle c.services c.settings c.interfaces c.time = .ok (reports, kept after) := by
  obtain ⟨host, written, loaded, hcycle, persisted⟩ := run_eq_ok h
  obtain rfl := keeps.load_ok s host loaded
  have stored := keeps.persist_ok written (persister.load s).2 (by rw [persisted])
  rw [persisted] at stored
  rw [hcycle, stored]

theorem run_of_cycle {c : CycleInput} {s : σ} {host written : HostStore}
    {reports : List ItemReport} (loaded : (persister.load s).1 = .ok host)
    (h : host.cycle c.services c.settings c.interfaces c.time = .ok (reports, written)) :
    c.run persister s =
      match persister.persist written (persister.load s).2 with
      | (.error cause, s) => (.error (.storage cause), s)
      | (.ok (), s) => (.ok reports, s) := by
  rw [run_apply]
  rcases hload : persister.load s with ⟨result, s₁⟩
  rw [hload] at loaded
  obtain rfl : result = .ok host := loaded
  simp only [h]

theorem run_error (keeps : persister.Keeps kept) {c : CycleInput} {s after : σ}
    {cause : CycleError ε} (h : c.run persister s = (.error cause, after)) :
    kept after = kept s := by
  have loaded := keeps.load_kept s
  rw [run_apply] at h
  rcases hload : persister.load s with ⟨cause | host, s₁⟩
  · simp only [hload] at h loaded
    cases h
    exact loaded
  · simp only [hload] at h loaded
    rcases hcycle : host.cycle c.services c.settings c.interfaces c.time
      with cause | ⟨reports', host'⟩
    · simp only [hcycle] at h
      cases h
      exact loaded
    · simp only [hcycle] at h
      have failed := keeps.persist_error host' s₁
      rcases hpersist : persister.persist host' s₁ with ⟨cause | done, s₂⟩
      · simp only [hpersist] at h failed
        cases h
        exact (failed cause rfl).trans loaded
      · simp only [hpersist] at h
        cases h

theorem run_error_of_cycle (keeps : persister.Keeps kept) {c : CycleInput} {s after : σ}
    {written : HostStore} {reports : List ItemReport} {cause : CycleError ε}
    (hcycle : (kept s).cycle c.services c.settings c.interfaces c.time = .ok (reports, written))
    (h : c.run persister s = (.error cause, after)) :
    ∃ fault, cause = .storage fault ∧
      ((persister.load s).1 = .error fault ∨
        (persister.persist written (persister.load s).2).1 = .error fault) := by
  cases hload : (persister.load s).1 with
  | error fault =>
    rw [run_apply] at h
    rcases hstate : persister.load s with ⟨result, s₁⟩
    rw [hstate] at hload
    obtain rfl : result = .error fault := hload
    simp only [hstate] at h
    cases h
    exact ⟨fault, rfl, Or.inl rfl⟩
  | ok host =>
    obtain rfl := keeps.load_ok s host hload
    rw [run_of_cycle hload hcycle] at h
    rcases hpersist : persister.persist written (persister.load s).2 with ⟨fault | done, s₂⟩
    · simp only [hpersist] at h
      cases h
      exact ⟨fault, rfl, Or.inr rfl⟩
    · simp only [hpersist] at h
      cases h

end Run

namespace CycleInput

theorem Monitors.cycle {c : CycleInput} {item identity : String}
    (monitors : c.Monitors item identity) {host after : HostStore} {reports : List ItemReport}
    (h : host.cycle c.services c.settings c.interfaces c.time = .ok (reports, after)) :
    (∀ counter, (after.samplesOf item).get? (sampleKey counter identity) =
      ((c.count? item counter).map (sampleOf c.time)).or
        ((host.samplesOf item).get? (sampleKey counter identity))) ∧
    ∃ report, reports.filter (·.item == item) = [report] ∧
      ∀ n, c.count? item .inOctets = some n →
        valuesOf "in" report.entries =
          ((host.samplesOf item).outcome (sampleKey .inOctets identity) c.time n).rate?.toList := by
  obtain ⟨service, once, ungrouped⟩ := monitors.once
  obtain ⟨entries, hcheck, reported⟩ := HostStore.cycle_alone once h
  have single : (c.settings.withDiscovered service.parameters).discovered.group = none := ungrouped
  have meant : c.meant item = c.interfaces.meantBy item service.parameters.naming := by
    rw [CycleInput.meant, once, List.flatMap_singleton]
  -- Without nodes an item means one port at most, which is measured unless it is down.
  rcases Section.meantBy_cases_of_plain monitors.plain item service.parameters.naming
    with found | ⟨i, found⟩
  · obtain ⟨-, rfl, kept⟩ := (Check.checkItem_unmatched single found).1 hcheck
    have nothing : c.meant item = [] := meant.trans found
    refine ⟨fun counter => ?_, _, reported, fun n hn => ?_⟩
    · simp [kept, count?, nothing]
    · simp [count?, nothing] at hn
  · obtain ⟨-, hreport, kept⟩ := (Check.checkItem_only single found).1 hcheck
    have one : c.meant item = [i] := meant.trans found
    have identical : i.attributes.identity = identity :=
      monitors.identical i (one ▸ List.mem_singleton_self i)
    subst identical
    rw [Check.measureUnlessDown] at kept hreport
    by_cases down : i.attributes.operStatus.isDown = true
    · rw [if_pos down] at kept hreport
      refine ⟨fun counter => ?_, _, reported, fun n hn => ?_⟩
      · simp [kept, count?, one, down]
      · simp [count?, one, down] at hn
    · rw [if_neg down] at kept hreport
      have counted (counter : Counter) : c.count? item counter = i.count? counter := by
        simp [count?, one, down]
      refine ⟨fun counter => ?_, _, reported, fun n hn => ?_⟩
      · rw [kept, Measured.measure_get?, counted]
      · have values := Check.report_valuesOf hreport .input
        rw [if_neg (show ¬(Measured.measure i c.time _ _).1.attributes.operStatus.isDown =
          true from down), if_neg (by simp)] at values
        have rate :=
          Measured.measure_rate i c.time (c.settings.withDiscovered service.parameters).averaging
            (host.samplesOf item) ((counted .inOctets).symm.trans hn)
        exact values.trans (congrArg Option.toList rate)

end CycleInput

def latest? (done : List CycleInput) (item : String) (counter : Counter) :
    Option (Float × UInt64) :=
  (done.filterMap (·.reading? item counter)).getLast?

theorem latest?_append_singleton (done : List CycleInput) (c : CycleInput) (item : String)
    (counter : Counter) :
    latest? (done ++ [c]) item counter =
      (c.reading? item counter).or (latest? done item counter) := by
  rw [latest?, List.filterMap_append, List.getLast?_append]
  cases hc : c.reading? item counter <;> simp [hc, latest?]

def Remembers (item identity : String) (done : List CycleInput) (host : HostStore) : Prop :=
  ∀ counter, (host.samplesOf item).get? (sampleKey counter identity) =
    (latest? done item counter).map fun (time, n) => sampleOf time n

theorem Remembers.step {item identity : String} {done : List CycleInput} {host after : HostStore}
    (remembers : Remembers item identity done host) {c : CycleInput}
    (monitors : c.Monitors item identity) {reports : List ItemReport}
    (h : host.cycle c.services c.settings c.interfaces c.time = .ok (reports, after)) :
    Remembers item identity (done ++ [c]) after := by
  intro counter
  rw [(monitors.cycle h).1 counter, remembers counter, latest?_append_singleton,
    CycleInput.reading?]
  cases c.count? item counter <;> simp

theorem history_remembers {σ ε : Type} {persister : Persister (StateM σ) ε}
    {kept : σ → HostStore} (keeps : persister.Keeps kept) {item identity : String}
    {cycles before : List CycleInput} {s : σ}
    (monitors : ∀ c ∈ (history persister cycles s).1, c.Monitors item identity)
    (remembers : Remembers item identity before (kept s)) :
    Remembers item identity (before ++ (history persister cycles s).1)
      (kept (history persister cycles s).2) := by
  induction cycles generalizing before s with
  | nil => simpa [history] using remembers
  | cons c rest ih =>
    rw [history] at monitors ⊢
    rcases hrun : c.run persister s with ⟨cause | reports, s₁⟩
    · simp only [hrun] at monitors ⊢
      exact ih monitors (run_error keeps hrun ▸ remembers)
    · simp only [hrun] at monitors ⊢
      have first := monitors c List.mem_cons_self
      have others :=
        ih (fun d hd => monitors d (List.mem_cons_of_mem c hd))
          (remembers.step first (run_ok keeps hrun))
      simpa using others

/-- The incoming traffic that is reported for an item after a run of cycles: none without an earlier
cycle in which the item reported the counter, and otherwise the change per second since the latest
of these, unless no time has passed since then or the counter is lower. -/
theorem incoming_traffic_of_history {σ ε : Type} {persister : Persister (StateM σ) ε}
    {kept : σ → HostStore} (keeps : persister.Keeps kept) {s : σ} (fresh : kept s = .empty)
    (item identity : String) (cycles : List CycleInput) (now : CycleInput)
    (monitors : ∀ c ∈ (history persister cycles s).1 ++ [now], c.Monitors item identity)
    {reports : List ItemReport} {after : σ}
    (succeeds : now.run persister (history persister cycles s).2 = (.ok reports, after))
    {n : UInt64} (active : now.count? item .inOctets = some n) :
    ∃ report, reports.filter (·.item == item) = [report] ∧
      valuesOf "in" report.entries =
        match latest? (history persister cycles s).1 item .inOctets with
        | none => []
        | some (time, m) =>
          if now.time - time ≤ 0.0 then []
          else if n.toFloat - m.toFloat < 0.0 then []
          else [(n.toFloat - m.toFloat) / (now.time - time)] := by
  have start : Remembers item identity [] (kept s) := by
    intro counter
    rw [fresh]
    rfl
  have remembers := history_remembers keeps
    (fun c hc => monitors c (List.mem_append_left _ hc)) start .inOctets
  rw [List.nil_append] at remembers
  have last := monitors now (List.mem_append_right _ (List.mem_singleton_self now))
  obtain ⟨-, report, reported, values⟩ := last.cycle (run_ok keeps succeeds)
  refine ⟨report, reported, ?_⟩
  rw [values n active, SampleStore.outcome_rate?, remembers]
  rcases latest? (history persister cycles s).1 item .inOctets with _ | ⟨time, m⟩
  · rfl
  · simp only [Option.map_some, Option.bind_some, sampleOf]
    by_cases late : now.time - time ≤ 0.0
    · simp only [if_pos late, Option.toList_none]
    · by_cases lower : n.toFloat - m.toFloat < 0.0
      · simp only [if_neg late, if_pos lower, Option.toList_none]
      · simp only [if_neg late, if_neg lower, Option.toList_some]

def Persister.memory : Persister (StateM HostStore) Empty where
  load host := (.ok host, host)
  persist host _ := (.ok (), host)

theorem Persister.memory_keeps : Persister.memory.Keeps id where
  load_kept _ := rfl
  load_ok _ _ h := (Except.ok.inj h).symm
  persist_ok _ _ _ := rfl
  persist_error _ _ _ h := by cases h

namespace CycleInput

def port (status : LinkStatus) (octets : UInt64) : Interface where
  attributes :=
    { index := "1", descr := "eth0", aliasName := "", typeCode := "6", speed := 0.0,
      operStatus := status, adminStatus := none, address := .empty, outQueue := none,
      speedText := "", group := none, node := none, extraInfo := none }
  traffic := .counters { PerCounter.missing with inOctets := some octets }

-- Two items mean the port: one by its description, one by its index.
def ofPort (time : Float) (status : LinkStatus) (octets : UInt64) : CycleInput where
  services := [⟨"eth0", .none, .empty⟩, ⟨"1", .none, .empty⟩]
  settings := { CheckSettings.standard with averaging := ⟨some 5, none⟩ }
  interfaces := [port status octets]
  time := time

theorem ofPort_monitors (time : Float) (status : LinkStatus) (octets : UInt64) :
    (ofPort time status octets).Monitors "eth0" "1.eth0..None" where
  once := ⟨_, rfl, rfl⟩
  plain := by
    intro i hi
    cases hi
    rfl
  identical := by
    have meant : (ofPort time status octets).meant "eth0" = [port status octets] := rfl
    rw [meant]
    intro i hi
    rw [List.mem_singleton.1 hi]
    rfl

end CycleInput

open CycleInput in
theorem incoming_traffic_past_down_port :
    ∃ reports after report,
      (ofPort 5.0 .up 2000).run .memory
        (history .memory [ofPort 0.0 .up 1000, ofPort 2.0 .down 1500] .empty).2 =
          (.ok reports, after) ∧
      reports.filter (·.item == "eth0") = [report] ∧ valuesOf "in" report.entries = [200.0] := by
  have succeeded : (history .memory [ofPort 0.0 .up 1000, ofPort 2.0 .down 1500] .empty).1 =
      [ofPort 0.0 .up 1000, ofPort 2.0 .down 1500] := rfl
  obtain ⟨reports, after, succeeds⟩ : ∃ reports after, (ofPort 5.0 .up 2000).run .memory
      (history .memory [ofPort 0.0 .up 1000, ofPort 2.0 .down 1500] .empty).2 =
        (.ok reports, after) := ⟨_, _, rfl⟩
  have active : (ofPort 5.0 .up 2000).count? "eth0" .inOctets = some 2000 := rfl
  have latest : latest? [ofPort 0.0 .up 1000, ofPort 2.0 .down 1500] "eth0" .inOctets =
      some (0.0, 1000) := rfl
  have monitors :
      ∀ c ∈ (history .memory [ofPort 0.0 .up 1000, ofPort 2.0 .down 1500] .empty).1 ++
          [ofPort 5.0 .up 2000],
        c.Monitors "eth0" "1.eth0..None" := by
    rw [succeeded]
    intro c hc
    simp only [List.cons_append, List.nil_append, List.mem_cons, List.not_mem_nil, or_false] at hc
    rcases hc with rfl | rfl | rfl
    all_goals exact ofPort_monitors ..
  have fresh : id (.empty : HostStore) = .empty := rfl
  obtain ⟨report, reported, values⟩ :=
    incoming_traffic_of_history Persister.memory_keeps fresh "eth0" "1.eth0..None"
      [ofPort 0.0 .up 1000, ofPort 2.0 .down 1500] (ofPort 5.0 .up 2000) monitors succeeds active
  rw [succeeded, latest] at values
  have rate : ((2000 : UInt64).toFloat - (1000 : UInt64).toFloat) / (5.0 - 0.0) = 200.0 := by
    decide +kernel
  have late : ¬ ((5.0 : Float) - 0.0 ≤ 0.0) := by decide +kernel
  have higher : ¬ ((2000 : UInt64).toFloat - (1000 : UInt64).toFloat < 0.0) := by decide +kernel
  refine ⟨reports, after, report, succeeds, reported, ?_⟩
  rw [values]
  exact (if_neg late).trans ((if_neg higher).trans (congrArg (fun r => [r]) rate))

end IfaceMonitor
