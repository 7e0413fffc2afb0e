import IfaceMonitor.CommandLine.Folder
import IfaceMonitor.CommandLine.Run
import IfaceMonitor.Proofs.Discovery.Normal

namespace IfaceMonitor.CommandLine

theorem eq_ok_of_isSome {ε α σ : Type} {p : Except ε α × σ}
    (h : p.1.toOption.isSome = true) :
    ∃ a after, p = (.ok a, after) ∧ p.2 = after := by
  obtain ⟨outcome | a, after⟩ := p
  · cases h
  · exact ⟨a, after, rfl, rfl⟩

theorem fromUTF8?_toUTF8 (text : String) : String.fromUTF8? text.toUTF8 = some text :=
  dif_pos text.isValidUTF8

theorem readRecord_of_decodeText {α : Type} {decode : Json → Decoded α} {files : Folder}
    {path : String} {content : ByteArray} {x : α} (placed : files.read path = .bytes content)
    (decoded : decodeText decode content = some x) :
    readRecord Folder.access decode path files = (.ok x, files) := by
  have opened : (liftM (Folder.access.read path) : ExceptT RunError (StateM Folder) Reading) files =
      (.ok (.bytes content), files) := Prod.ext (congrArg Except.ok placed) rfl
  simp only [readRecord, bind_apply, opened, decoded]
  rfl

def keepValid (rules : List DiscoveryRule) :
    ExceptT RunError (StateM Folder) (List DiscoveryRule) :=
  match checkRules rules with
  | .ok rules => pure rules
  | .error cause => throw (.config cause)

structure Reads {α : Type} (p : α → Prop) (step : ExceptT RunError (StateM Folder) α) :
    Prop where
  folder : ∀ files, (step files).2 = files
  value : ∀ files x, (step files).1 = .ok x → p x

namespace Reads
variable {α β : Type} {p : α → Prop}

theorem apply {step : ExceptT RunError (StateM Folder) α} (reads : Reads p step) {files : Folder}
    {x : α} (read : (step files).1 = .ok x) : step files = (.ok x, files) :=
  Prod.ext read (reads.folder files)

theorem ok {x : α} (holds : p x) : Reads p (pure x) where
  folder _ := rfl
  value := by
    rintro files _ ⟨⟩
    exact holds

theorem fail (cause : RunError) : Reads p (throw cause) where
  folder _ := rfl
  value := by rintro files _ ⟨⟩

theorem bind {q : β → Prop} {x : ExceptT RunError (StateM Folder) β}
    {f : β → ExceptT RunError (StateM Folder) α} (first : Reads q x)
    (rest : ∀ b, q b → Reads p (f b)) : Reads p (x >>= f) := by
  have sequel (files : Folder) : (∃ cause, (x >>= f) files = (.error cause, files)) ∨
      ∃ b, q b ∧ (x >>= f) files = f b files := by
    have kept := first.folder files
    have fits := first.value files
    rw [bind_apply]
    generalize x files = outcome at kept fits ⊢
    rcases outcome with ⟨cause | b, after⟩ <;> obtain rfl : after = files := kept
    · exact Or.inl ⟨cause, rfl⟩
    · exact Or.inr ⟨b, fits b rfl, rfl⟩
  constructor
  · intro files
    rcases sequel files with ⟨cause, failed⟩ | ⟨b, holds, next⟩
    · rw [failed]
    · rw [next]
      exact (rest b holds).folder files
  · intro files y same
    rcases sequel files with ⟨cause, failed⟩ | ⟨b, holds, next⟩
    · rw [failed] at same
      cases same
    · rw [next] at same
      exact (rest b holds).value files y same

theorem read {path : String} {f : Reading → ExceptT RunError (StateM Folder) α}
    (rest : ∀ reading, Reads p (f reading)) :
    Reads p (liftM (Folder.access.read path) >>= f) := by
  have opens : Reads (fun _ => True)
      (liftM (Folder.access.read path) : ExceptT RunError (StateM Folder) Reading) :=
    ⟨fun _ => rfl, fun _ _ _ => trivial⟩
  exact bind opens fun reading _ => rest reading

theorem record {decode : Json → Decoded α} (each : Json.Yields p decode) (path : String) :
    Reads p (readRecord Folder.access decode path) := by
  refine read fun reading => ?_
  cases reading with
  | bytes content =>
    dsimp only
    split
    · next x decoded =>
      simp only [decodeText, Option.bind_eq_bind, Option.bind_eq_some_iff,
        toOption_eq_some] at decoded
      obtain ⟨text, -, value, -, found⟩ := decoded
      exact ok (each found)
    · exact fail .inputParse
  | missing | refused => exact fail .inputOpen
  | unreadable => exact fail .inputParse

theorem statistics (path : String) : Reads Section.Normal (readStatistics Folder.access path) := by
  refine read fun reading => ?_
  cases reading with
  | bytes content =>
    dsimp only
    split
    · exact fail .sourceRead
    · split
      · next parsed => exact ok (KernelStatistics.normal_of_parse parsed)
      · exact fail _
  | missing | refused => exact fail .sourceOpen
  | unreadable => exact fail .sourceRead

theorem nodes (paths : List (String × String)) :
    Reads (fun nodes => ∀ node ∈ nodes, node.2.Normal) (readNodes Folder.access paths) := by
  induction paths with
  | nil => exact ok (List.forall_mem_nil _)
  | cons first rest ih =>
    exact bind (record Section.yields_normal first.2) fun interfaces normal =>
      bind ih fun others normalOthers =>
        ok (List.forall_mem_cons.2 ⟨normal, normalOthers⟩)

theorem interfaces (source : SectionSource) :
    Reads Section.Normal (readSection Folder.access source) := by
  unfold readSection
  split
  · exact record Section.yields_normal _
  · split
    · exact statistics source.kernelStatistics
    · exact bind (nodes source.nodes) fun read normal => ok (Section.ofNodes_normal normal)

theorem rules (path : Option String) :
    Reads (fun rules => ∀ r ∈ rules, r.criteria.Normal) (readRules Folder.access path) := by
  have checked (rules : List DiscoveryRule) (normal : ∀ r ∈ rules, r.criteria.Normal) :
      Reads (fun rules => ∀ r ∈ rules, r.criteria.Normal) (keepValid rules) := by
    unfold keepValid
    split
    · next kept valid =>
      obtain ⟨-, -, same⟩ := bind_eq_ok.1 valid
      rw [pure_eq_ok] at same
      exact ok (same ▸ normal)
    · exact fail _
  cases path with
  | some path => exact bind (record DiscoveryRule.yields_normal.list path) checked
  | none => exact checked [.standard] (List.forall_mem_singleton.2 DiscoveryRule.standard_normal)

theorem services (interfaces : Section) (rules services : Option String) :
    Reads (fun _ => True) (readServices Folder.access interfaces rules services) := by
  cases services with
  | some path => exact record (fun _ _ _ => trivial) path
  | none => exact bind (Reads.rules rules) fun _ _ => ok trivial

theorem params (path : Option String) : Reads (fun _ => True) (readParams Folder.access path) := by
  cases path with
  | some path => exact record (fun _ _ _ => trivial) path
  | none => exact ok trivial

end Reads

end IfaceMonitor.CommandLine
