import IfaceMonitor.Config.StateMapping
import IfaceMonitor.Proofs.Outcome
import Mathlib.Tactic.IntervalCases

namespace IfaceMonitor

namespace State

theorem ofCode_eq_ok {n : Nat} {s : State} : ofCode n = .ok s ↔ s.code = n := by
  constructor
  · intro known
    unfold ofCode at known
    split at known <;> cases known <;> rfl
  · rintro rfl
    cases s <;> rfl

theorem ofCode_succeeds {n : Nat} : (∃ s, ofCode n = .ok s) ↔ n ≤ 3 := by
  constructor
  · rintro ⟨s, known⟩
    rw [ofCode_eq_ok] at known
    subst known
    cases s <;> decide
  · intro small
    interval_cases n <;> exact ⟨_, rfl⟩

theorem code_injective {a b : State} (same : a.code = b.code) : a = b := by
  have known := ofCode_eq_ok.2 same
  rw [ofCode_eq_ok.2 rfl] at known
  exact (Except.ok.inj known).symm

end State

namespace StateTable

def Functional {κ : Type} (listed : List (κ × State)) : Prop :=
  ∀ key a b, (key, a) ∈ listed → (key, b) ∈ listed → a = b

variable {κ τ : Type} [DecidableEq κ] {conflict : κ → State → State → ConfigError}
  {t t' : StateTable κ} {key : κ} {state : State} {listed pairs : List (κ × State)}

def Represents (t : StateTable κ) (listed : List (κ × State)) : Prop :=
  ∀ key state, t.lookup key = some state ↔ (key, state) ∈ listed

theorem represents_nil : StateTable.Represents ([] : StateTable κ) [] := by
  intro key state
  simp [lookup]

theorem Represents.functional (h : t.Represents listed) : Functional listed :=
  fun key a b ha hb => Option.some.inj (((h key a).2 ha).symm.trans ((h key b).2 hb))

theorem lookup_concat (k : κ) :
    StateTable.lookup (t ++ [(key, state)]) k =
      (t.lookup k).or (if key = k then some state else none) := by
  simp only [lookup, List.find?_append, List.find?_singleton, Option.map_or, decide_eq_true_eq]
  split <;> rfl

theorem Represents.add (h : t.Represents listed) (added : t.add conflict key state = .ok t') :
    t'.Represents (listed ++ [(key, state)]) := by
  intro k s
  rw [List.mem_append, List.mem_singleton, ← h, Prod.mk.injEq]
  unfold StateTable.add at added
  split at added
  · next absent =>
    cases added
    rw [lookup_concat]
    by_cases same : key = k
    · subst same
      simp [absent, eq_comm]
    · simp [same, Ne.symm same]
  · next previous found =>
    split at added
    · next same =>
      cases added
      subst same
      exact ⟨Or.inl, fun given => given.elim id fun ⟨own, meant⟩ => own ▸ meant ▸ found⟩
    · cases added

theorem Represents.add_succeeds (h : t.Represents listed)
    (functional : Functional (listed ++ [(key, state)])) :
    ∃ t', t.add conflict key state = .ok t' := by
  unfold StateTable.add
  cases found : t.lookup key with
  | none => exact ⟨_, rfl⟩
  | some previous =>
    have before := List.mem_append_left [(key, state)] ((h key previous).1 found)
    have same : previous = state :=
      functional key previous state before (List.mem_append_right _ List.mem_cons_self)
    exact ⟨t, if_pos same⟩

def addAll (conflict : κ → State → State → ConfigError) (t : StateTable κ)
    (pairs : List (κ × State)) : Except ConfigError (StateTable κ) :=
  pairs.foldlM (fun t p => StateTable.add conflict t p.1 p.2) t

theorem addAll_cons (p : κ × State) :
    addAll conflict t (p :: pairs) = (t.add conflict p.1 p.2 >>= (addAll conflict · pairs)) := by
  rw [addAll, List.foldlM_cons]
  rfl

theorem addAll_append (others : List (κ × State)) :
    addAll conflict t (pairs ++ others) =
      (t.addAll conflict pairs >>= (addAll conflict · others)) := by
  rw [addAll, List.foldlM_append]
  rfl

theorem Represents.addAll (h : t.Represents listed) (added : t.addAll conflict pairs = .ok t') :
    t'.Represents (listed ++ pairs) := by
  induction pairs generalizing t listed with
  | nil =>
    cases added
    rwa [List.append_nil]
  | cons p rest ih =>
    rw [addAll_cons, bind_eq_ok] at added
    obtain ⟨next, first, added⟩ := added
    rw [List.append_cons]
    exact ih (h.add first) added

theorem Represents.addAll_succeeds (h : t.Represents listed)
    (functional : Functional (listed ++ pairs)) :
    ∃ t', t.addAll conflict pairs = .ok t' := by
  induction pairs generalizing t listed with
  | nil => exact ⟨t, rfl⟩
  | cons p rest ih =>
    rw [List.append_cons] at functional
    obtain ⟨next, first⟩ : ∃ next, t.add conflict p.1 p.2 = .ok next :=
        h.add_succeeds fun key a b ha hb =>
      functional key a b (List.mem_append_left rest ha) (List.mem_append_left rest hb)
    obtain ⟨last, added⟩ := ih (h.add first) functional
    rw [addAll_cons]
    exact ⟨last, bind_eq_ok.2 ⟨next, first, added⟩⟩

def meanings (entries : List (List κ × Nat)) : List (κ × State) :=
  entries.flatMap fun e => (State.ofCode e.2).toOption.toList.flatMap fun state =>
    e.1.map (·, state)

omit [DecidableEq κ] in
theorem mem_meanings {entries : List (List κ × Nat)} :
    (key, state) ∈ meanings entries ↔ ∃ e ∈ entries, key ∈ e.1 ∧ e.2 = state.code := by
  simp only [meanings, List.mem_flatMap, Option.mem_toList, toOption_eq_some, State.ofCode_eq_ok,
    List.mem_map, Prod.mk.injEq]
  refine exists_congr fun e => and_congr_right fun _ => ⟨?_, ?_⟩
  · rintro ⟨s, code, k, member, rfl, rfl⟩
    exact ⟨member, code.symm⟩
  · rintro ⟨member, code⟩
    exact ⟨state, code.symm, key, member, rfl, rfl⟩

theorem build_eq_ok_iff {entries : List (List κ × Nat)} :
    build conflict entries = .ok t ↔
      (∀ e ∈ entries, e.2 ≤ 3) ∧ addAll conflict [] (meanings entries) = .ok t := by
  unfold build
  generalize ([] : StateTable κ) = start
  induction entries generalizing start with
  | nil => simp [meanings, addAll]
  | cons e rest ih =>
    rw [List.foldlM_cons, List.forall_mem_cons, ← State.ofCode_succeeds, meanings,
      List.flatMap_cons, ← meanings]
    cases known : State.ofCode e.2 with
    | error cause => simp [bind, Except.bind]
    | ok state =>
      have keys : e.1.foldlM (fun t key => StateTable.add conflict t key state) start =
          addAll conflict start (e.1.map (·, state)) := by
        rw [addAll, List.foldlM_map]
      simp only [Except.toOption, Option.toList_some, List.flatMap_singleton, addAll_append,
        bind_eq_ok, keys, ih, Except.ok.injEq, exists_eq', exists_eq_left', true_and]
      tauto

section Texts
variable (f : τ → κ) (entries : List (List τ × Nat))

def keyed : List (List κ × Nat) :=
  entries.map fun e => (e.1.map f, e.2)

def listing (entries : List (List τ × Nat)) : List (τ × Nat) :=
  entries.flatMap fun e => e.1.map (·, e.2)

theorem mem_listing {a : τ} {n : Nat} :
    (a, n) ∈ listing entries ↔ ∃ e ∈ entries, a ∈ e.1 ∧ e.2 = n := by
  simp [listing]

omit [DecidableEq κ] in
theorem mem_meanings_keyed :
    (key, state) ∈ meanings (keyed f entries) ↔
      ∃ a, (a, state.code) ∈ listing entries ∧ f a = key := by
  simp only [mem_meanings, keyed, mem_listing, List.mem_map]
  constructor
  · rintro ⟨_, ⟨e, listed, rfl⟩, member, code⟩
    obtain ⟨a, own, rfl⟩ := List.mem_map.1 member
    exact ⟨a, ⟨e, listed, own, code⟩, rfl⟩
  · rintro ⟨a, ⟨e, listed, own, code⟩, rfl⟩
    exact ⟨_, ⟨e, listed, rfl⟩, List.mem_map_of_mem own, code⟩

theorem represents_of_build {f : τ → κ} {entries : List (List τ × Nat)}
    (built : build conflict (keyed f entries) = .ok t) :
    t.Represents (meanings (keyed f entries)) :=
  represents_nil.addAll (build_eq_ok_iff.1 built).2

theorem lookup_of_build {f : τ → κ} {entries : List (List τ × Nat)}
    (built : build conflict (keyed f entries) = .ok t) :
    t.lookup key = some state ↔ ∃ a, (a, state.code) ∈ listing entries ∧ f a = key := by
  rw [represents_of_build built, mem_meanings_keyed]

theorem build_succeeds_iff :
    (∃ t, build conflict (keyed f entries) = .ok t) ↔
      (∀ e ∈ entries, e.2 ≤ 3) ∧
        ∀ a n b m,
          (a, n) ∈ listing entries → (b, m) ∈ listing entries → f a = f b → n = m := by
  have codes : (∀ e ∈ keyed f entries, e.2 ≤ 3) ↔ ∀ e ∈ entries, e.2 ≤ 3 :=
    List.forall_mem_map
  constructor
  · rintro ⟨t, built⟩
    have known := codes.1 (build_eq_ok_iff.1 built).1
    refine ⟨known, fun a n b m first second same => ?_⟩
    have state {c : τ} {k : Nat} (given : (c, k) ∈ listing entries) : ∃ s :
        State, s.code = k := by
      obtain ⟨e, listed, -, rfl⟩ := (mem_listing entries).1 given
      exact (State.ofCode_succeeds.2 (known e listed)).imp fun s => State.ofCode_eq_ok.1
    obtain ⟨s, rfl⟩ := state first
    obtain ⟨s', rfl⟩ := state second
    have meant := (mem_meanings_keyed f entries).2 ⟨a, first, same⟩
    have meant' := (mem_meanings_keyed f entries).2 ⟨b, second, rfl⟩
    rw [(represents_of_build built).functional (f b) s s' meant meant']
  · rintro ⟨known, functional⟩
    obtain ⟨t, added⟩ : ∃ t, addAll conflict [] (meanings (keyed f entries)) = .ok t := by
      refine represents_nil.addAll_succeeds fun key s s' first second => ?_
      obtain ⟨a, given, rfl⟩ := (mem_meanings_keyed f entries).1 first
      obtain ⟨b, again, same⟩ := (mem_meanings_keyed f entries).1 second
      exact State.code_injective (functional a _ b _ given again same.symm)
    exact ⟨t, build_eq_ok_iff.2 ⟨codes.2 known, added⟩⟩

end Texts

end StateTable

end IfaceMonitor
