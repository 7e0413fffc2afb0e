import IfaceMonitor.Proofs.CommandLine.Reading
import IfaceMonitor.Proofs.Cycle.History

namespace IfaceMonitor.CommandLine

section State
variable (files : Folder) (path : String)

def stateOf : Reading → Except RunError HostStore
  | .missing => .ok .empty
  | .refused => .error .stateOpen
  | .unreadable => .error .stateRead
  | .bytes content =>
    match String.fromUTF8? content with
    | none => .error .stateRead
    | some text =>
      match (Json.parse? text).bind fun value => (HostStore.decode value).toOption with
      | some host => .ok host
      | none => .error .stateDecode

theorem loadState_apply :
    loadState Folder.access path files = (stateOf (files.read path), files) := by
  have opened : Folder.access.read path files = (files.read path, files) := rfl
  simp only [loadState, bind, StateT.bind, opened]
  cases files.read path with
  | missing | refused | unreadable => rfl
  | bytes content =>
    simp only [stateOf]
    cases String.fromUTF8? content with
    | none => rfl
    | some text =>
      dsimp only
      cases (Json.parse? text).bind fun value => (HostStore.decode value).toOption <;> rfl

end State

section Check
variable (now : Option Float) (source : SectionSource) (rules services params : Option String)
  (time : Option Float)

def readCycle : ExceptT RunError (StateM Folder) CycleInput := do
  let interfaces ← readSection Folder.access source
  let services ← readServices Folder.access interfaces rules services
  let settings ← readParams Folder.access params
  match time <|> now with
  | none => throw .timeMissing
  | some time => return { services, settings, interfaces, time }

theorem readCycle_reads :
    Reads (fun _ => True) (readCycle now source rules services params time) := by
  refine .bind (.interfaces source) fun interfaces _ =>
    .bind (.services interfaces rules services) fun found _ =>
    .bind (.params params) fun settings _ => ?_
  cases time <|> now with
  | none => exact .fail .timeMissing
  | some time => exact .ok trivial

variable (stateFile : String) (files : Folder)

def persisted? : Option (CycleInput × HostStore) := do
  let c ← (readCycle now source rules services params time files).1.toOption
  let host ← (loadState Folder.access stateFile files).1.toOption
  let (_, written) ← (host.cycle c.services c.settings c.interfaces c.time).toOption
  return (c, written)

theorem storeState_apply (host : HostStore) :
    storeState Folder.access stateFile host files =
      match files.replace stateFile (stateText host) with
      | some after => (.ok (), after)
      | none => (.error .stateWrite, files) := by
  have put : Folder.access.replace stateFile (stateText host) files =
      match files.replace stateFile (stateText host) with
      | some after => (true, after)
      | none => (false, files) := by
    simp only [Folder.access, bind, StateT.bind, get, getThe, MonadStateOf.get, StateT.get, pure]
    cases files.replace stateFile (stateText host) <;> rfl
  simp only [storeState, bind, StateT.bind, put]
  cases files.replace stateFile (stateText host) <;> rfl

theorem run_statePersister (c : CycleInput) :
    c.run (statePersister Folder.access stateFile) files =
      match stateOf (files.read stateFile) with
      | .error cause => (.error (.storage cause), files)
      | .ok host =>
        match host.cycle c.services c.settings c.interfaces c.time with
        | .error cause => (.error (.config cause), files)
        | .ok (reports, written) =>
          match files.replace stateFile (stateText written) with
          | some after => (.ok reports, after)
          | none => (.error (.storage .stateWrite), files) := by
  have load : (statePersister Folder.access stateFile).load files =
      (stateOf (files.read stateFile), files) :=
    loadState_apply files stateFile
  rw [run_apply, load]
  rcases stateOf (files.read stateFile) with cause | host
  · rfl
  dsimp only
  rcases host.cycle c.services c.settings c.interfaces c.time with cause | ⟨reports, written⟩
  · rfl
  have persist : (statePersister Folder.access stateFile).persist written files = _ :=
    storeState_apply stateFile files written
  dsimp only
  rw [persist]
  cases files.replace stateFile (stateText written) <;> rfl

theorem run_check_apply :
    run Folder.access now (.check source rules services params stateFile time) files =
      match readCycle now source rules services params time files with
      | (.error cause, after) => (.error cause, after)
      | (.ok c, after) =>
        match c.run (statePersister Folder.access stateFile) after with
        | (.ok reports, after) => (.ok (outputText ItemReport.encode reports), after)
        | (.error (.config cause), after) => (.error (.config cause), after)
        | (.error (.storage cause), after) => (.error cause, after) := by
  simp only [run, readCycle, bind_apply]
  rcases readSection Folder.access source files with ⟨cause | interfaces, files⟩
  · rfl
  dsimp only
  rcases readServices Folder.access interfaces rules services files with ⟨cause | found, files⟩
  · rfl
  dsimp only
  rcases readParams Folder.access params files with ⟨cause | settings, files⟩
  · rfl
  dsimp only
  cases time <|> now with
  | none => rfl
  | some time =>
    have lifted (cycle : StateM Folder (Except (CycleError RunError) (List ItemReport))) :
        (ExceptT.lift cycle : ExceptT RunError (StateM Folder) _) files =
          (.ok (cycle files).1, (cycle files).2) := rfl
    simp only [bind_apply, pure_apply, lifted, CycleInput.run]
    rcases runCycle (statePersister Folder.access stateFile) found settings interfaces time
      files with ⟨(cause | cause) | reports, after⟩ <;> rfl

theorem run_check :
    run Folder.access now (.check source rules services params stateFile time) files =
      match (readCycle now source rules services params time files).1 with
      | .error cause => (.error cause, files)
      | .ok c =>
        match stateOf (files.read stateFile) with
        | .error cause => (.error cause, files)
        | .ok host =>
          match host.cycle c.services c.settings c.interfaces c.time with
          | .error cause => (.error (.config cause), files)
          | .ok (reports, written) =>
            match files.replace stateFile (stateText written) with
            | some after => (.ok (outputText ItemReport.encode reports), after)
            | none => (.error .stateWrite, files) := by
  rw [run_check_apply]
  have kept := (readCycle_reads now source rules services params time).folder files
  generalize readCycle now source rules services params time files = outcome at kept ⊢
  rcases outcome with ⟨cause | c, left⟩ <;> obtain rfl : left = files := kept
  · rfl
  dsimp only
  rw [run_statePersister]
  rcases stateOf (left.read stateFile) with cause | host
  · rfl
  dsimp only
  rcases host.cycle c.services c.settings c.interfaces c.time with cause | ⟨reports, written⟩
  · rfl
  dsimp only
  cases left.replace stateFile (stateText written) <;> rfl

end Check

section Outcomes
variable {now : Option Float} {source : SectionSource} {rules services params : Option String}
  {time : Option Float} {stateFile : String} {files after : Folder}

theorem persisted?_eq_some {c : CycleInput} {written : HostStore} :
    persisted? now source rules services params time stateFile files = some (c, written) ↔
      (readCycle now source rules services params time files).1 = .ok c ∧
        ∃ host reports, stateOf (files.read stateFile) = .ok host ∧
          host.cycle c.services c.settings c.interfaces c.time = .ok (reports, written) := by
  simp only [persisted?, loadState_apply, Option.bind_eq_bind, Option.bind_eq_some_iff,
    toOption_eq_some]
  constructor
  · rintro ⟨c', read, host, loaded, ⟨reports, left⟩, checked, same⟩
    cases same
    exact ⟨read, host, reports, loaded, checked⟩
  · rintro ⟨read, host, reports, loaded, checked⟩
    exact ⟨c, read, host, loaded, (reports, written), checked, rfl⟩

theorem run_check_ok {output : String}
    (ran : run Folder.access now (.check source rules services params stateFile time) files =
      (.ok output, after)) :
    ∃ c written, persisted? now source rules services params time stateFile files =
      some (c, written) ∧
      files.replace stateFile (stateText written) = some after := by
  rw [run_check] at ran
  rcases read : (readCycle now source rules services params time files).1 with cause | c <;>
    simp only [read] at ran
  · cases ran
  rcases loaded : stateOf (files.read stateFile) with cause | host <;> simp only [loaded] at ran
  · cases ran
  rcases checked : host.cycle c.services c.settings c.interfaces c.time
    with cause | ⟨reports, written⟩ <;>
    simp only [checked] at ran
  · cases ran
  cases placed : files.replace stateFile (stateText written) <;>
    simp only [placed] at ran <;> cases ran
  exact ⟨c, written, persisted?_eq_some.2 ⟨read, host, reports, loaded, checked⟩, placed⟩

theorem run_check_error {cause : RunError}
    (ran : run Folder.access now (.check source rules services params stateFile time) files =
      (.error cause, after)) :
    after = files := by
  rw [run_check] at ran
  repeat' split at ran
  all_goals cases ran
  all_goals rfl

end Outcomes

end IfaceMonitor.CommandLine
