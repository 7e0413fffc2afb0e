import IfaceMonitor.Proofs.Check.Success

namespace IfaceMonitor

/-- A step over a store that stays as it is then, also where the step fails. -/
abbrev InPlace := ExceptT ConfigError (StateM SampleStore)

namespace InPlace
variable {α β : Type}

def update (step : SampleStore → α × SampleStore) : InPlace α :=
  fun store => (.ok (step store).1, (step store).2)

def judge (outcome : Except ConfigError α) : InPlace α :=
  fun store => (outcome, store)

def passThrough (step : InPlace α) (store : SampleStore) :
    Except ConfigError (α × SampleStore) :=
  match step store with
  | (.ok a, after) => .ok (a, after)
  | (.error cause, _) => .error cause

theorem passThrough_bind (step : InPlace α) (next : α → InPlace β) (store : SampleStore) :
    (step >>= next).passThrough store = step.passThrough store >>= fun left =>
      (next left.1).passThrough left.2 := by
  simp only [passThrough, bind_apply]
  rcases step store with ⟨cause | a, after⟩ <;> rfl

theorem passThrough_update (step : SampleStore → α × SampleStore) (store : SampleStore) :
    (update step).passThrough store = .ok (step store) := rfl

theorem passThrough_judge (outcome : Except ConfigError α) (store : SampleStore) :
    (judge outcome).passThrough store = outcome.map (·, store) := by
  cases outcome <;> rfl

end InPlace

namespace Check
variable (comparator : Option Comparator) (item : String) (settings : CheckSettings)

def checkMatchesInPlace (time : Float) : List Interface → Selection → InPlace Selection
  | [], selection => pure selection
  | i :: rest, selection => do
    let measured ← InPlace.update (measureUnlessDown i time settings.averaging)
    let entries ← InPlace.judge
      (report comparator item settings measured [] i.attributes.node.isNone)
    checkMatchesInPlace time rest (selection.add entries)

def singleEntriesInPlace (interfaces : Section) (time : Float) : InPlace (List Entry) := do
  let found := interfaces.meantBy item settings.discovered.naming
  let selection ← checkMatchesInPlace comparator item settings time found .none
  return selection.entries

def groupEntriesInPlace (config : GroupConfig) (interfaces : Section) (time : Float) :
    InPlace (List Entry) := do
  let members ← InPlace.update
    (Measured.measureAll time settings.averaging (config.membersIn item interfaces))
  let listing := config.listing item (members.map (·.attributes)) interfaces
  let useDiscovered := interfaces.head?.all (·.attributes.node.isNone)
  InPlace.judge (report comparator item settings (.ofMembers item members) listing useDiscovered)

end Check

open Check in
def checkItemInPlace (comparator : Option Comparator) (item : String) (settings : CheckSettings)
    (interfaces : Section) (time : Float) : InPlace (List Entry) := do
  InPlace.judge (requireComparator comparator settings)
  match settings.discovered.group with
  | some config => groupEntriesInPlace comparator item settings config interfaces time
  | none => singleEntriesInPlace comparator item settings interfaces time

namespace Check
variable {comparator : Option Comparator} {settings : CheckSettings}

theorem checkMatches_eq_inPlace (comparator : Option Comparator) (item : String)
    (settings : CheckSettings) (time : Float) (found : List Interface) (selection : Selection)
    (store : SampleStore) :
    (checkMatchesInPlace comparator item settings time found selection).passThrough store =
      checkMatches comparator item settings time found selection store := by
  induction found generalizing selection store with
  | nil => rfl
  | cons i rest ih =>
    let measured := measureUnlessDown i time settings.averaging store
    rw [checkMatchesInPlace, InPlace.passThrough_bind, InPlace.passThrough_update]
    change
      (InPlace.judge (report comparator item settings measured.1 [] i.attributes.node.isNone) >>=
        fun entries => checkMatchesInPlace comparator item settings time rest
          (selection.add entries)).passThrough measured.2 =
      (report comparator item settings measured.1 [] i.attributes.node.isNone >>= fun entries =>
        checkMatches comparator item settings time rest (selection.add entries) measured.2)
    rw [InPlace.passThrough_bind, InPlace.passThrough_judge]
    cases report comparator item settings measured.1 [] i.attributes.node.isNone with
    | error cause => rfl
    | ok entries => exact ih (selection.add entries) measured.2

theorem singleEntries_eq_inPlace (comparator : Option Comparator) (item : String)
    (settings : CheckSettings) (interfaces : Section) (time : Float) (store : SampleStore) :
    (singleEntriesInPlace comparator item settings interfaces time).passThrough store =
      singleEntries comparator item settings interfaces time store := by
  rw [singleEntriesInPlace, singleEntries, InPlace.passThrough_bind, checkMatches_eq_inPlace]
  rfl

theorem groupEntries_eq_inPlace (comparator : Option Comparator) (item : String)
    (settings : CheckSettings) (config : GroupConfig) (interfaces : Section) (time : Float)
    (store : SampleStore) :
    (groupEntriesInPlace comparator item settings config interfaces time).passThrough store =
      groupEntries comparator item config settings interfaces time store := by
  rw [groupEntriesInPlace, InPlace.passThrough_bind, InPlace.passThrough_update]
  simp only [groupEntries, bind, Except.bind, InPlace.passThrough_judge]
  rfl

end Check

theorem checkItem_eq_inPlace (comparator : Option Comparator) (item : String)
    (settings : CheckSettings) (interfaces : Section) (time : Float) (store : SampleStore) :
    (checkItemInPlace comparator item settings interfaces time).passThrough store =
      checkItem comparator item settings interfaces time store := by
  rw [checkItemInPlace, checkItem, InPlace.passThrough_bind, InPlace.passThrough_judge]
  cases Check.requireComparator comparator settings with
  | error cause => rfl
  | ok done =>
    simp only [bind, Except.bind, Except.map]
    cases settings.discovered.group with
    | some config =>
      exact Check.groupEntries_eq_inPlace comparator item settings config interfaces time store
    | none => exact Check.singleEntries_eq_inPlace comparator item settings interfaces time store

namespace Check

def Unanswered (comparator : Option Comparator) (settings : CheckSettings) (rule : TrafficRule) :
    Prop :=
  comparator = none ∧ settings.rulesInOrder.find? (·.levels.isPredictive) = some rule

theorem requireComparator_eq_error {comparator : Option Comparator} {settings : CheckSettings}
    {cause : ConfigError} :
    requireComparator comparator settings = .error cause ↔
      ∃ rule, Unanswered comparator settings rule ∧
        cause = .predictiveWithoutComparator rule.direction := by
  unfold requireComparator Unanswered
  cases comparator with
  | some compare => simp
  | none =>
    cases settings.rulesInOrder.find? (·.levels.isPredictive) with
    | none => simp
    | some rule => simp [eq_comm]

end Check

/-- A check fails exactly for the first predictive rule, wherever in the configuration it stands, if
there is no comparator; then nothing is written. In any other check each direction is judged,
whatever its speed and its rate are. -/
theorem check_fails_before_measuring (comparator : Option Comparator) (item : String)
    (settings : CheckSettings) (interfaces : Section) (time : Float) (store : SampleStore) :
    (∀ cause after, checkItemInPlace comparator item settings interfaces time store =
      (.error cause, after) ↔
      after = store ∧ ∃ rule, Check.Unanswered comparator settings rule ∧
        cause = .predictiveWithoutComparator rule.direction) ∧
    (∀ cause, checkItem comparator item settings interfaces time store = .error cause ↔
      ∃ rule, Check.Unanswered comparator settings rule ∧
        cause = .predictiveWithoutComparator rule.direction) ∧
    ((∃ rule, Check.Unanswered comparator settings rule) ∨
      ∀ speeds direction traffic, ∃ parts,
        (Check.trafficCheck comparator settings speeds).judge direction traffic = .ok parts) := by
  simp only [← Check.requireComparator_eq_error]
  cases required : Check.requireComparator comparator settings with
  | error fault =>
    have inPlace : checkItemInPlace comparator item settings interfaces time store =
        (.error fault, store) := by
      rw [checkItemInPlace, bind_apply, required]
      rfl
    have passed : checkItem comparator item settings interfaces time store = .error fault := by
      rw [← checkItem_eq_inPlace, InPlace.passThrough, inPlace]
    obtain ⟨rule, unanswered, -⟩ := Check.requireComparator_eq_error.1 required
    refine ⟨fun cause after => ?_, fun cause => ?_, Or.inl ⟨rule, unanswered⟩⟩
    · rw [inPlace, Prod.mk.injEq, Except.error.injEq, Except.error.injEq, and_comm,
        eq_comm (a := store)]
    · rw [passed, Except.error.injEq, Except.error.injEq]
  | ok done =>
    obtain ⟨entries, checked⟩ := Check.checkItem_succeeds required item interfaces time store
    have answers (speeds : ReferenceSpeeds) := Check.trafficCheck_answers required speeds
    refine ⟨fun cause after => ?_, fun cause => ?_, Or.inr fun speeds direction traffic => ?_⟩
    · have succeeded := checkItem_eq_inPlace comparator item settings interfaces time store
      rw [checked, InPlace.passThrough] at succeeded
      constructor
      · intro failed
        rw [failed] at succeeded
        cases succeeded
      · rintro ⟨-, ⟨⟩⟩
    · rw [checked]
      simp
    · exact TrafficCheck.judge_succeeds (answers speeds) direction traffic

end IfaceMonitor
