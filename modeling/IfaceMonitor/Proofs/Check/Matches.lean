import IfaceMonitor.Proofs.Check.Success

/-!
A check taken apart. The matches of an item are measured one after the other, each over the samples
that the ones before it left; the reports follow from these measurements, and which report is chosen
follows from the reports (`checkItem_single`). Without matches nothing happens
(`checkItem_unmatched`), and the only match is the one reported (`checkItem_only`). A group is
measured as a whole and has one report (`checkItem_group`).
-/

namespace IfaceMonitor.Check
variable {comparator : Option Comparator} {item : String} {settings : CheckSettings}
  {interfaces : Section} {time : Float} {store after : SampleStore} {entries : List Entry}

def measuredEach (time : Float) (averaging : Averaging) :
    List Interface → SampleStore → List Measured
  | [], _ => []
  | i :: rest, store =>
    (measureUnlessDown i time averaging store).1 ::
      measuredEach time averaging rest (measureUnlessDown i time averaging store).2

theorem measureUnlessDown_attributes (i : Interface) (time : Float) (averaging : Averaging)
    (store : SampleStore) :
    (measureUnlessDown i time averaging store).1.attributes = i.attributes := by
  rw [measureUnlessDown]
  split <;> rfl

theorem measuredEach_attributes (time : Float) (averaging : Averaging) (found : List Interface)
    (store : SampleStore) :
    (measuredEach time averaging found store).map (·.attributes) = found.map (·.attributes) := by
  induction found generalizing store with
  | nil => rfl
  | cons i rest ih =>
    rw [measuredEach, List.map_cons, List.map_cons, measureUnlessDown_attributes, ih]

theorem samplesOfEach_of_down {found : List Interface}
    (down : ∀ i ∈ found, i.attributes.operStatus.isDown = true) (time : Float)
    (averaging : Averaging) (store : SampleStore) :
    samplesOfEach time averaging found store = store := by
  induction found with
  | nil => rfl
  | cons i rest ih =>
    have unmeasured : (measureUnlessDown i time averaging store).2 = store := by
      rw [measureUnlessDown, if_pos (down i List.mem_cons_self)]
    rw [samplesOfEach, List.foldl_cons, unmeasured]
    exact ih fun j hj => down j (List.mem_cons_of_mem i hj)

def Reports (comparator : Option Comparator) (item : String) (settings : CheckSettings)
    (m : Measured) (entries : List Entry) : Prop :=
  report comparator item settings m [] m.attributes.node.isNone = .ok entries

def ReportsOfEach (comparator : Option Comparator) (item : String) (settings : CheckSettings)
    (time : Float) (found : List Interface) (store : SampleStore) (reports : List (List Entry)) :
    Prop :=
  List.Forall₂ (Reports comparator item settings)
    (measuredEach time settings.averaging found store) reports

theorem ReportsOfEach.exists_of_mem {found : List Interface} {reports : List (List Entry)}
    (h : ReportsOfEach comparator item settings time found store reports)
    (chosen : entries ∈ reports) :
    ∃ m ∈ measuredEach time settings.averaging found store,
      Reports comparator item settings m entries := by
  rw [ReportsOfEach] at h
  generalize measuredEach time settings.averaging found store = measured at h
  induction h with
  | nil => cases chosen
  | cons reported _ ih =>
    rcases List.mem_cons.1 chosen with rfl | chosen
    · exact ⟨_, List.mem_cons_self, reported⟩
    · exact (ih chosen).imp fun m ⟨matched, reported⟩ =>
        ⟨List.mem_cons_of_mem _ matched, reported⟩

theorem ReportsOfEach.eq_nil_iff {found : List Interface} {reports : List (List Entry)}
    (h : ReportsOfEach comparator item settings time found store reports) :
    reports = [] ↔ found = [] := by
  have measured := List.Forall₂.length_eq h
  have attributes :=
    congrArg List.length (measuredEach_attributes time settings.averaging found store)
  simp only [List.length_map] at attributes
  rw [← List.length_eq_zero_iff, ← List.length_eq_zero_iff (l := found),
    ← measured, attributes]

theorem checkMatches_eq_ok {found : List Interface} {selection chosen : Selection} :
    checkMatches comparator item settings time found selection store = .ok (chosen, after) ↔
      ∃ reports, ReportsOfEach comparator item settings time found store reports ∧
        chosen = reports.foldl Selection.add selection ∧
          after = samplesOfEach time settings.averaging found store := by
  induction found generalizing selection store with
  | nil =>
    simp only [checkMatches, ReportsOfEach, measuredEach, Except.ok.injEq, Prod.mk.injEq,
      List.forall₂_nil_left_iff, exists_eq_left, List.foldl_nil, samplesOfEach, eq_comm]
  | cons i rest ih =>
    simp only [checkMatches, bind_eq_ok, ih, ReportsOfEach, measuredEach, Reports,
      measureUnlessDown_attributes, List.forall₂_cons_left_iff]
    constructor
    · rintro ⟨entries, reported, reports, others, rfl, rfl⟩
      exact ⟨entries :: reports, ⟨entries, reports, reported, others, rfl⟩, rfl, rfl⟩
    · rintro ⟨_, ⟨entries, reports, reported, others, rfl⟩, rfl, rfl⟩
      exact ⟨entries, reported, reports, others, rfl, rfl⟩

theorem reportsOfEach_exist (required : requireComparator comparator settings = .ok ())
    (item : String) (time : Float) (found : List Interface) (store : SampleStore) :
    ∃ reports, ReportsOfEach comparator item settings time found store reports := by
  obtain ⟨chosen, checked⟩ := checkMatches_succeeds required item time found .none store
  obtain ⟨reports, reported, -⟩ := checkMatches_eq_ok.1 checked
  exact ⟨reports, reported⟩

def chosenEntries (reports : List (List Entry)) : List Entry :=
  (reports.foldl Selection.add .none).entries

theorem entries_add (s : Selection) (entries : List Entry) :
    (s.add entries).entries = entries ∨ (s.add entries).entries = s.entries := by
  obtain ⟨fastest, last⟩ := s
  rw [Selection.add]
  cases outgoingTraffic? entries with
  | none =>
    cases fastest with
    | none => exact Or.inl rfl
    | some best => exact Or.inr rfl
  | some traffic =>
    dsimp only
    split
    · exact Or.inl rfl
    · cases fastest with
      | none => exact Or.inl rfl
      | some best => exact Or.inr rfl

theorem entries_add_none (entries : List Entry) :
    (Selection.none.add entries).entries = entries := by
  rw [Selection.add]
  split
  · split <;> rfl
  · rfl

theorem entries_foldl_add (reports : List (List Entry)) (s : Selection) :
    (reports.foldl Selection.add s).entries = s.entries ∨
      (reports.foldl Selection.add s).entries ∈ reports := by
  induction reports generalizing s with
  | nil => exact Or.inl rfl
  | cons first rest ih =>
    rw [List.foldl_cons]
    rcases ih (s.add first) with kept | other
    · rw [kept]
      rcases entries_add s first with new | old
      · exact Or.inr (by rw [new]; exact List.mem_cons_self)
      · exact Or.inl old
    · exact Or.inr (List.mem_cons_of_mem first other)

theorem chosenEntries_mem {reports : List (List Entry)} (some_report : reports ≠ []) :
    chosenEntries reports ∈ reports := by
  cases reports with
  | nil => exact absurd rfl some_report
  | cons first rest =>
    rw [chosenEntries, List.foldl_cons]
    rcases entries_foldl_add rest (Selection.none.add first) with kept | other
    · rw [kept, entries_add_none]
      exact List.mem_cons_self
    · exact List.mem_cons_of_mem first other

theorem checkItem_single (ungrouped : settings.discovered.group = none) :
    checkItem comparator item settings interfaces time store = .ok (entries, after) ↔
      requireComparator comparator settings = .ok () ∧
        ∃ reports, ReportsOfEach comparator item settings time
          (interfaces.meantBy item settings.discovered.naming) store
            reports ∧
          entries = chosenEntries reports ∧
          after = samplesOfEach time settings.averaging
            (interfaces.meantBy item settings.discovered.naming) store := by
  simp only [checkItem, ungrouped, singleEntries, bind_eq_ok, pure_eq_ok, Prod.exists,
    Prod.mk.injEq, checkMatches_eq_ok]
  constructor
  · rintro ⟨⟨⟩, required, _, _, ⟨reports, reported, rfl, rfl⟩, rfl, rfl⟩
    exact ⟨required, reports, reported, rfl, rfl⟩
  · rintro ⟨required, reports, reported, rfl, rfl⟩
    exact ⟨(), required, _, _, ⟨reports, reported, rfl, rfl⟩, rfl, rfl⟩

theorem checkItem_unmatched (ungrouped : settings.discovered.group = none)
    (nothing : interfaces.meantBy item settings.discovered.naming = []) :
    checkItem comparator item settings interfaces time store = .ok (entries, after) ↔
      requireComparator comparator settings = .ok () ∧ entries = [] ∧ after = store := by
  rw [checkItem_single ungrouped, nothing]
  refine and_congr_right fun _ => ⟨?_, ?_⟩
  · rintro ⟨reports, reported, rfl, rfl⟩
    cases reported.eq_nil_iff.2 rfl
    exact ⟨rfl, rfl⟩
  · rintro ⟨rfl, rfl⟩
    exact ⟨[], .nil, rfl, rfl⟩

theorem checkItem_only {i : Interface} (ungrouped : settings.discovered.group = none)
    (only : interfaces.meantBy item settings.discovered.naming = [i]) :
    checkItem comparator item settings interfaces time store = .ok (entries, after) ↔
      requireComparator comparator settings = .ok () ∧
        Reports comparator item settings
          (measureUnlessDown i time settings.averaging store).1 entries ∧
        after = (measureUnlessDown i time settings.averaging store).2 := by
  rw [checkItem_single ungrouped, only]
  refine and_congr_right fun _ => ⟨?_, ?_⟩
  · rintro ⟨reports, reported, rfl, rfl⟩
    obtain ⟨entries, _, own, others, rfl⟩ := List.forall₂_cons_left_iff.1 reported
    cases List.forall₂_nil_left_iff.1 others
    rw [chosenEntries, List.foldl_cons, List.foldl_nil, entries_add_none]
    exact ⟨own, rfl⟩
  · rintro ⟨own, rfl⟩
    exact ⟨[entries], .cons own .nil, (entries_add_none entries).symm, rfl⟩

def measuredGroup (item : String) (config : GroupConfig) (settings : CheckSettings)
    (interfaces : Section) (time : Float) (store : SampleStore) : Measured :=
  .ofMembers item (Measured.measureAll time settings.averaging
    (config.membersIn item interfaces) store).1

theorem checkItem_group {config : GroupConfig} (grouped : settings.discovered.group = some config)
    (h : checkItem comparator item settings interfaces time store = .ok (entries, after)) :
    requireComparator comparator settings = .ok () ∧
      ∃ listing useDiscovered,
        report comparator item settings (measuredGroup item config settings interfaces time store)
          listing useDiscovered =
          .ok entries := by
  simp only [checkItem, grouped, groupEntries, bind_eq_ok, pure_eq_ok, Prod.mk.injEq] at h
  obtain ⟨⟨⟩, required, _, reported, rfl, -⟩ := h
  exact ⟨required, _, _, reported⟩

end IfaceMonitor.Check
