import IfaceMonitor.Proofs.CommandLine.Run
import IfaceMonitor.Proofs.Cycle.Origins
import IfaceMonitor.Proofs.Store.Codec

namespace IfaceMonitor.CommandLine

section Written
variable {host : HostStore} (survives : host.Survives)
include survives

theorem stateOf_stateText :
    stateOf (.bytes (stateText host).toUTF8) =
      match HostStore.decode host.encode with
      | .ok read => .ok read
      | .error _ => .error .stateDecode := by
  have parsed : Json.parse? (stateText host) = some host.encode :=
    Json.parse?_compact (HostStore.writable_encode survives)
  simp only [stateOf, fromUTF8?_toUTF8, parsed, Option.bind_some]
  cases HostStore.decode host.encode <;> rfl

theorem stateOf_of_isFinite (finite : host.IsFinite) :
    stateOf (.bytes (stateText host).toUTF8) = .ok host := by
  rw [stateOf_stateText survives, HostStore.decode_encode finite]

theorem stateOf_of_not_isFinite (infinite : ¬host.IsFinite) :
    stateOf (.bytes (stateText host).toUTF8) = .error .stateDecode := by
  rw [stateOf_stateText survives]
  cases decoded : HostStore.decode host.encode with
  | ok read => exact absurd (HostStore.isFinite_of_decode decoded) infinite
  | error cause => rfl

end Written

/-- Checks over one state file, which held `initial` before them, and the folder they end in. Of
those that succeed, the last one first, it says what went into the cycle and what was persisted.
Between checks any other files may change. -/
inductive Checks (stateFile : String) (initial : HostStore) :
    List (CycleInput × HostStore) → Folder → Prop
  | start {files : Folder} (loads : (loadState Folder.access stateFile files).1 = .ok initial) :
      Checks stateFile initial [] files
  | change {done : List (CycleInput × HostStore)} {files after : Folder}
      (checks : Checks stateFile initial done files)
      (same : after.read stateFile = files.read stateFile) : Checks stateFile initial done after
  | success {done : List (CycleInput × HostStore)} {files after : Folder} {now time : Option Float}
      {source : SectionSource} {rules services params : Option String} {output : String}
      {c : CycleInput} {written : HostStore} (checks : Checks stateFile initial done files)
      (ran : run Folder.access now (.check source rules services params stateFile time) files =
        (.ok output, after))
      (persists : persisted? now source rules services params time stateFile files =
        some (c, written)) :
      Checks stateFile initial ((c, written) :: done) after
  | failure {done : List (CycleInput × HostStore)} {files after : Folder} {now time : Option Float}
      {source : SectionSource} {rules services params : Option String} {cause : RunError}
      (checks : Checks stateFile initial done files)
      (ran : run Folder.access now (.check source rules services params stateFile time) files =
        (.error cause, after)) :
      Checks stateFile initial done after

namespace Checks
variable {stateFile : String} {initial : HostStore} {done : List (CycleInput × HostStore)}
  {files : Folder}

theorem next (checks : Checks stateFile initial done files) (now time : Option Float)
    (source : SectionSource) (rules services params : Option String)
    {outcome : Except RunError String} {after : Folder}
    (ran : run Folder.access now (.check source rules services params stateFile time) files =
      (outcome, after)) :
    ∃ latest, Checks stateFile initial (latest ++ done) after := by
  cases outcome with
  | ok output =>
    obtain ⟨c, written, persists, -⟩ := run_check_ok ran
    exact ⟨[(c, written)], checks.success ran persists⟩
  | error cause => exact ⟨[], checks.failure ran⟩

def latest (initial : HostStore) (done : List (CycleInput × HostStore)) : HostStore :=
  (done.head?.map (·.2)).getD initial

theorem read_stateFile {c : CycleInput} {written : HostStore}
    (checks : Checks stateFile initial done files) (last : done.head? = some (c, written)) :
    files.read stateFile = .bytes (stateText written).toUTF8 := by
  induction checks with
  | start => cases last
  | change _ same ih => exact same.trans (ih last)
  | success _ ran persists =>
    cases last
    obtain ⟨c', written', persists', placed⟩ := run_check_ok ran
    cases persists.symm.trans persists'
    exact Folder.read_replace placed
  | failure _ ran ih =>
    cases run_check_error ran
    exact ih last

theorem loads_initial (checks : Checks stateFile initial done files) (none : done = []) :
    stateOf (files.read stateFile) = .ok initial := by
  induction checks with
  | start loads =>
    rw [loadState_apply] at loads
    exact loads
  | change _ same ih => exact (congrArg stateOf same).trans (ih none)
  | success => cases none
  | failure _ ran ih =>
    cases run_check_error ran
    exact ih none

theorem loads_latest (checks : Checks stateFile initial done files)
    (survives : ∀ p ∈ done, p.2.Survives) {host : HostStore}
    (loads : stateOf (files.read stateFile) = .ok host) : host = latest initial done := by
  cases done with
  | nil => exact Except.ok.inj (loads.symm.trans (checks.loads_initial rfl))
  | cons last done =>
    rw [checks.read_stateFile rfl] at loads
    have legible := survives last List.mem_cons_self
    by_cases finite : last.2.IsFinite
    · exact Except.ok.inj (loads.symm.trans (stateOf_of_isFinite legible finite))
    · cases loads.symm.trans (stateOf_of_not_isFinite legible finite)

theorem origins (checks : Checks stateFile initial done files)
    (survives : ∀ p ∈ done, p.2.Survives) {item key : String} {sample : Sample}
    (stored : ((latest initial done).samplesOf item).get? key = some sample) :
    (initial.samplesOf item).get? key = some sample ∨ ∃ p ∈ done, p.1.Writes key sample := by
  induction checks with
  | start => exact Or.inl stored
  | change _ _ ih => exact ih survives stored
  | failure _ _ ih => exact ih survives stored
  | success checks ran persists ih =>
    have earlier := fun p hp => survives p (List.mem_cons_of_mem _ hp)
    obtain ⟨-, host, reports, loads, checked⟩ := persisted?_eq_some.1 persists
    obtain rfl := checks.loads_latest earlier loads
    rcases HostStore.cycle_origins checked stored with written | before
    · exact Or.inr ⟨_, List.mem_cons_self, written⟩
    · refine (ih earlier before).imp id ?_
      rintro ⟨p, hp, written⟩
      exact ⟨p, List.mem_cons_of_mem _ hp, written⟩

end Checks

/-- After any checks the last of which that succeeded persisted `written`, the state file is loaded
as `written` if all samples in it are finite. Otherwise it cannot be decoded, and no check can
succeed any more. What is stored was there from the start, or a check wrote it at its time: the
value of a counter, which is finite, or an average. -/
theorem state_file_of_checks {stateFile : String} {initial written : HostStore} {c : CycleInput}
    {done : List (CycleInput × HostStore)} {files : Folder}
    (checks : Checks stateFile initial ((c, written) :: done) files)
    (survives : ∀ p ∈ (c, written) :: done, p.2.Survives) :
    (written.IsFinite → loadState Folder.access stateFile files = (.ok written, files)) ∧
      (¬written.IsFinite →
        loadState Folder.access stateFile files = (.error .stateDecode, files) ∧
        ∀ now source rules services params time, ∃ cause,
          run Folder.access now (.check source rules services params stateFile time) files =
            (.error cause, files)) ∧
      ∀ item key sample, (written.samplesOf item).get? key = some sample →
        (initial.samplesOf item).get? key = some sample ∨
          ∃ p ∈ (c, written) :: done, p.1.Writes key sample := by
  have legible := survives (c, written) List.mem_cons_self
  refine ⟨fun finite => ?_, fun infinite => ?_, fun item key sample stored =>
    checks.origins survives stored⟩
  · rw [loadState_apply, checks.read_stateFile rfl, stateOf_of_isFinite legible finite]
  · have unread : stateOf (files.read stateFile) = .error .stateDecode := by
      rw [checks.read_stateFile rfl, stateOf_of_not_isFinite legible infinite]
    refine ⟨by rw [loadState_apply, unread], fun now source rules services params time => ?_⟩
    rcases ran : run Folder.access now (.check source rules services params stateFile time) files
      with ⟨cause | output, after⟩
    · cases run_check_error ran
      exact ⟨cause, rfl⟩
    · obtain ⟨c', written', persists, -⟩ := run_check_ok ran
      obtain ⟨-, host, reports, loads, -⟩ := persisted?_eq_some.1 persists
      cases loads.symm.trans unread

def portSource : SectionSource :=
  { interfaces := some "port.json", nodes := [], kernelStatistics := standardStatistics }

def portFolder : Folder :=
  Table.empty.insert "port.json"
    ("[\x7b\"attributes\": \x7b\"index\": \"1\", \"descr\": \"eth0\", \"type\": \"6\", \"oper_status\": \"1\"\x7d, " ++
      "\"counters\": \x7b\"in_octets\": 1000\x7d\x7d]")

def checkPort (time : Float) : ExceptT RunError (StateM Folder) String :=
  run Folder.access none (.check portSource none none none "state.json" (some time))

def persistedPort? (time : Float) : Folder → Option (CycleInput × HostStore) :=
  persisted? none portSource none none none (some time) "state.json"

theorem state_file_of_port :
    ∃ first between second after c written, checkPort 0.0 portFolder = (.ok first, between) ∧
      checkPort 5.0 between = (.ok second, after) ∧
        persistedPort? 5.0 between = some (c, written) ∧ written.IsFinite ∧
        loadState Folder.access "state.json" after = (.ok written, after) := by
  obtain ⟨first, between, ran, left⟩ :=
    eq_ok_of_isSome (p := checkPort 0.0 portFolder) (by decide +kernel)
  obtain ⟨⟨c, written⟩, persists, legible⟩ :=
    (Option.any_eq_true (fun p : CycleInput × HostStore => decide p.2.Survives)
      (persistedPort? 0.0 portFolder)).1
      (by decide +kernel)
  have one : Checks "state.json" .empty [(c, written)] between := .success (.start rfl) ran persists
  obtain ⟨second, after, ranAgain, -⟩ :=
    eq_ok_of_isSome (p := checkPort 5.0 between) (by rw [← left]; decide +kernel)
  obtain ⟨⟨d, later⟩, persistsAgain, fit⟩ :=
    (Option.any_eq_true (fun p : CycleInput × HostStore => decide (p.2.Survives ∧ p.2.IsFinite))
      (persistedPort? 5.0 between)).1 (by rw [← left]; decide +kernel)
  obtain ⟨legibleAgain, finite⟩ := of_decide_eq_true fit
  have two : Checks "state.json" .empty [(d, later), (c, written)] after :=
    .success one ranAgain persistsAgain
  obtain ⟨loads, -, -⟩ := state_file_of_checks two (by
    intro p hp
    rcases List.mem_cons.1 hp with rfl | hp
    · exact legibleAgain
    · rw [List.mem_singleton.1 hp]
      exact of_decide_eq_true legible)
  exact ⟨first, between, second, after, d, later, ran, ranAgain, persistsAgain,
    finite, loads finite⟩

theorem state_file_of_infinite_time :
    Setting.timestamp.readValue "inf" = .ok (.time (1.0 / 0.0)) ∧
      ∃ output after, checkPort (1.0 / 0.0) portFolder = (.ok output, after) ∧
        loadState Folder.access "state.json" after = (.error .stateDecode, after) := by
  obtain ⟨output, after, ran, left⟩ :=
    eq_ok_of_isSome (p := checkPort (1.0 / 0.0) portFolder) (by decide +kernel)
  have undecodable : (match stateOf (after.read "state.json") with
      | .error .stateDecode => true
      | _ => false) = true := by
    rw [← left]
    decide +kernel
  refine ⟨rfl, output, after, ran, ?_⟩
  rw [loadState_apply]
  split at undecodable
  · next decoded => rw [decoded]
  · cases undecodable

end IfaceMonitor.CommandLine
