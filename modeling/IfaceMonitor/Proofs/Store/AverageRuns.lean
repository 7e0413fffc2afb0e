import IfaceMonitor.Proofs.Rate.Repetition

/-!
Values for one average, one after the other, on a clock that goes on from call to call but may have
been set back before. A value that is not later than the stored sample is refused, and a refused
value leaves the sample in the way of the next one. So the average stands still until the clock has
passed the sample that was stored at first (`average_of_increasing`).
-/

namespace IfaceMonitor.SampleStore

def blend (backlog : Nat) (now : Sample) : Option Sample → Float
  | none => now.value
  | some previous =>
    previous.value * decay (now.time - previous.time) backlog +
      now.value * (1.0 - decay (now.time - previous.time) backlog)

def average (key : String) (backlog : Nat) (store : SampleStore) (now : Sample) : SampleStore :=
  (store.updateAverage key now.time now.value backlog).2

variable {store : SampleStore} {key : String} {backlog : Nat} {now previous : Sample} {time : Float}

theorem upToDate_iff (finite : time.isFinite = true) :
    store.UpToDate time key ↔
      ∃ previous, store.get? key = some previous ∧ time ≤ previous.time :=
  exists_congr fun _ => and_congr_right fun _ => Rounding.sub_le_zero_iff finite

theorem updateAverage_of_later (later : ¬store.UpToDate now.time key) :
    store.updateAverage key now.time now.value backlog =
      (blend backlog now (store.get? key),
        store.insert key ⟨now.time, blend backlog now (store.get? key)⟩) := by
  unfold updateAverage
  cases stored : store.get? key with
  | none => rfl
  | some previous =>
    have passed : ¬now.time - previous.time ≤ 0.0 := fun late =>
      later ⟨previous, stored, late⟩
    simp only [if_neg passed, blend]

theorem not_upToDate_average (finite : time.isFinite = true) (before : now.time < time)
    (later : ¬store.UpToDate time key) :
    ¬(store.average key backlog now).UpToDate time key := by
  by_cases recent : store.UpToDate now.time key
  · rwa [average, updateAverage_of_upToDate recent]
  · rw [average, updateAverage_of_later recent, upToDate_iff finite]
    rintro ⟨stored, found, within⟩
    rw [Table.get?_insert, if_pos rfl, Option.some.injEq] at found
    subst found
    exact Comparison.not_le_of_lt before within

variable {calls done rest : List Sample}

theorem foldl_average_of_upToDate (recent : ∀ call ∈ calls, store.UpToDate call.time key) :
    calls.foldl (average key backlog) store = store := by
  induction calls with
  | nil => rfl
  | cons first rest ih =>
    rw [List.forall_mem_cons] at recent
    rw [List.foldl_cons, average, updateAverage_of_upToDate recent.1]
    exact ih recent.2

theorem not_upToDate_foldl_average (finite : time.isFinite = true)
    (before : ∀ call ∈ calls, call.time < time) (later : ¬store.UpToDate time key) :
    ¬(calls.foldl (average key backlog) store).UpToDate time key := by
  induction calls generalizing store with
  | nil => exact later
  | cons first rest ih =>
    rw [List.forall_mem_cons] at before
    exact ih before.2 (not_upToDate_average finite before.1 later)

/-- Any call of a run at increasing finite times. If the sample stored before the run is ahead of
it, nothing has been written and the call returns the old average; otherwise the value enters the
average and leaves its own time. -/
theorem average_of_increasing (finite : ∀ call ∈ calls, call.time.isFinite = true)
    (increasing : calls.Pairwise (·.time < ·.time)) (cut : calls = done ++ now :: rest)
    (store : SampleStore) (key : String) (backlog : Nat) :
    (∀ previous, store.get? key = some previous → now.time ≤ previous.time →
        (done.foldl (average key backlog) store).updateAverage key now.time now.value backlog =
          (previous.value, store)) ∧
      ((∀ previous, store.get? key = some previous → ¬now.time ≤ previous.time) →
        ∃ mean after, (done.foldl (average key backlog) store).updateAverage key now.time
          now.value backlog = (mean, after) ∧
          mean = blend backlog now ((done.foldl (average key backlog) store).get? key) ∧
          after.get? key = some ⟨now.time, mean⟩) := by
  subst cut
  have passed : now.time.isFinite = true :=
    finite now (List.mem_append_right done List.mem_cons_self)
  have before : ∀ call ∈ done, call.time < now.time := fun call h =>
    (List.pairwise_append.1 increasing).2.2 call h now List.mem_cons_self
  constructor
  · intro previous stored ahead
    have recent : ∀ call ∈ done, store.UpToDate call.time key := fun call h =>
      (upToDate_iff (finite call (List.mem_append_left _ h))).2
        ⟨previous, stored, Comparison.le_of_lt_of_le (before call h) ahead⟩
    have late := (Rounding.sub_le_zero_iff passed).2 ahead
    rw [foldl_average_of_upToDate recent]
    simp only [updateAverage, stored, if_pos late]
  · intro later
    have fresh : ¬store.UpToDate now.time key := by
      rw [upToDate_iff passed]
      rintro ⟨previous, stored, ahead⟩
      exact later previous stored ahead
    have reached : ¬(done.foldl (average key backlog) store).UpToDate now.time key :=
      not_upToDate_foldl_average passed before fresh
    exact ⟨_, _, updateAverage_of_later reached, rfl, by rw [Table.get?_insert, if_pos rfl]⟩

def aheadStore : SampleStore :=
  .ofList [("k", ⟨1000.0, 8.0⟩)]

def caughtUp : List Sample :=
  [⟨1.0, 4.0⟩, ⟨1500.0, 4.0⟩]

theorem average_of_clock_caught_up :
    aheadStore.updateAverage "k" 1.0 4.0 5 = (8.0, aheadStore) ∧
      ∃ mean after,
        (aheadStore.average "k" 5 ⟨1.0, 4.0⟩).updateAverage "k" 1500.0 4.0 5 = (mean, after) ∧
        mean = blend 5 ⟨1500.0, 4.0⟩ (some ⟨1000.0, 8.0⟩) ∧
          after.get? "k" = some ⟨1500.0, mean⟩ := by
  have finite : ∀ call ∈ caughtUp, call.time.isFinite = true := by decide
  have increasing : caughtUp.Pairwise (·.time < ·.time) := by decide
  have early : caughtUp = [] ++ ⟨1.0, 4.0⟩ :: [⟨1500.0, 4.0⟩] := rfl
  have late : caughtUp = [⟨1.0, 4.0⟩] ++ ⟨1500.0, 4.0⟩ :: [] := rfl
  refine ⟨(average_of_increasing finite increasing early aheadStore "k" 5).1
    ⟨1000.0, 8.0⟩ rfl (by decide), ?_⟩
  refine (average_of_increasing finite increasing late aheadStore "k" 5).2 fun previous stored => ?_
  cases stored
  decide

theorem average_of_clock_set_back :
    ([⟨1.0, 8.0⟩, ⟨2.0, 8.0⟩] : List Sample).Pairwise (·.time < ·.time) ∧
      (∀ call ∈ ([⟨1.0, 8.0⟩, ⟨2.0, 8.0⟩] : List Sample), call.time.isFinite = true) ∧
      (([⟨1.0, 8.0⟩, ⟨2.0, 8.0⟩] : List Sample).foldl (average "k" 1) aheadStore).get? "k" =
        some ⟨1000.0, 8.0⟩ :=
  ⟨by decide, by decide, rfl⟩

end IfaceMonitor.SampleStore
