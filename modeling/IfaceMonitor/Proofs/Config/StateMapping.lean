import IfaceMonitor.Check.LinkState
import IfaceMonitor.Proofs.Config.StateTables
import IfaceMonitor.Proofs.Json.Record

namespace IfaceMonitor

namespace LinkStatus

theorem code_ofCode (text : String) : (ofCode text).code = Text.trim text := by
  unfold ofCode
  dsimp only
  cases found : named.find? (·.code == Text.trim text) with
  | none => rfl
  | some status =>
    have listed := List.find?_some found
    exact eq_of_beq listed

theorem ofCode_eq_iff {a b : String} : ofCode a = ofCode b ↔ Text.trim a = Text.trim b := by
  constructor
  · intro same
    rw [← code_ofCode, ← code_ofCode, same]
  · intro same
    simp only [ofCode, same]

theorem text_carries : Json.Carries ofCode Json.text decode := by
  intro value text read
  rw [decode, read]
  rfl

end LinkStatus

namespace StateMapping

inductive Subject (α : Type)
  | oper (status : α)
  | admin (status : α)
  | pair (oper admin : α)

def Subject.map {α β : Type} (f : α → β) : Subject α → Subject β
  | oper status => oper (f status)
  | admin status => admin (f status)
  | pair o a => pair (f o) (f a)

theorem Subject.forall_iff {α : Type} {p : Subject α → Prop} :
    (∀ subject, p subject) ↔
      (∀ s, p (.oper s)) ∧ (∀ s, p (.admin s)) ∧ ∀ o a, p (.pair o a) := by
  constructor
  · exact fun h => ⟨fun s => h _, fun s => h _, fun o a => h _⟩
  · rintro ⟨opers, admins, pairs⟩ (s | s | ⟨o, a⟩)
    · exact opers s
    · exact admins s
    · exact pairs o a

theorem Subject.exists_iff {α : Type} {p : Subject α → Prop} :
    (∃ subject, p subject) ↔
      (∃ s, p (.oper s)) ∨ (∃ s, p (.admin s)) ∨ ∃ o a, p (.pair o a) := by
  constructor
  · rintro ⟨s | s | ⟨o, a⟩, h⟩
    · exact Or.inl ⟨s, h⟩
    · exact Or.inr (Or.inl ⟨s, h⟩)
    · exact Or.inr (Or.inr ⟨o, a, h⟩)
  · rintro (⟨s, h⟩ | ⟨s, h⟩ | ⟨o, a, h⟩) <;> exact ⟨_, h⟩

def lookup (m : StateMapping) : Subject LinkStatus → Option State
  | .oper status => mappedOper (some m) status
  | .admin status => mappedAdmin (some m) status
  | .pair oper admin =>
    match m with
    | combined pairs => pairs.lookup (oper, admin)
    | _ => none

/-- A mapping in the codes that it is written with, not checked yet. -/
inductive Written
  | independent (oper admin : List (List String × Nat))
  | combined (pairs : List (String × String × Nat))

namespace Written
open StateTable (keyed listing)

def decodeTable : Json → Decoded (List (List String × Nat)) :=
  Json.list (Json.pair (Json.list Json.text) decodeCode)

def decode : Json → Decoded Written
  | .obj [("independent_mappings", value)] => do
    let fields ← value.record ["map_operstates", "map_admin_states"]
    let oper ← Json.withDefault fields "map_operstates" [] decodeTable
    let admin ← Json.withDefault fields "map_admin_states" [] decodeTable
    return independent oper admin
  | .obj [("combined_mappings", value)] => do
    return combined (← value.list (Json.triple Json.text Json.text decodeCode))
  | _ => .error .shape

def states : Written → List Nat
  | independent oper admin => (oper ++ admin).map (·.2)
  | combined pairs => pairs.map (·.2.2)

def entries : Written → List (Subject String × Nat)
  | independent oper admin =>
    (listing oper).map (fun e => (.oper e.1, e.2)) ++
      (listing admin).map (fun e => (.admin e.1, e.2))
  | combined pairs => pairs.map fun (oper, admin, n) => (.pair oper admin, n)

def inGroups (pairs : List (String × String × Nat)) : List (List (String × String) × Nat) :=
  pairs.map fun (oper, admin, n) => ([(oper, admin)], n)

def build : Written → Except ConfigError StateMapping
  | independent oper admin => do
    return .independent (← StateTable.build statusConflict (keyed LinkStatus.ofCode oper))
      (← StateTable.build statusConflict (keyed LinkStatus.ofCode admin))
  | combined pairs => do
    return .combined (← StateTable.build pairConflict
      (keyed (Prod.map LinkStatus.ofCode LinkStatus.ofCode) (inGroups pairs)))

def Permuted : Written → Written → Prop
  | independent oper admin, independent oper' admin' => oper.Perm oper' ∧ admin.Perm admin'
  | combined pairs, combined pairs' => pairs.Perm pairs'
  | _, _ => False

theorem table_carries :
    Json.Carries (keyed LinkStatus.ofCode) decodeTable StateMapping.decodeTable :=
  (LinkStatus.text_carries.list.pair fun _ _ => id).list

theorem decodePairs_of_shape {value : Json} {pairs : List (String × String × Nat)}
    (shaped : value.list (Json.triple Json.text Json.text decodeCode) = .ok pairs) :
    decodePairs value =
      .ok (keyed (Prod.map LinkStatus.ofCode LinkStatus.ofCode) (inGroups pairs)) := by
  have read := (LinkStatus.text_carries.triple LinkStatus.text_carries fun _ _ => id).list shaped
  rw [decodePairs, read]
  simp [keyed, inGroups, bind, Except.bind, pure, Except.pure, Function.comp_def]

variable {json : Json} {w : Written}

theorem decode_of_shape (shaped : decode json = .ok w) :
    StateMapping.decode json = Decoded.ofConfig w.build := by
  unfold decode at shaped
  split at shaped
  · next value =>
    obtain ⟨fields, record, shaped⟩ := bind_eq_ok.1 shaped
    obtain ⟨oper, operRead, shaped⟩ := bind_eq_ok.1 shaped
    obtain ⟨admin, adminRead, shaped⟩ := bind_eq_ok.1 shaped
    cases shaped
    have operStates : Json.withDefault fields "map_operstates" [] StateMapping.decodeTable =
        .ok (keyed LinkStatus.ofCode oper) := table_carries.withDefault operRead
    have adminStates : Json.withDefault fields "map_admin_states" [] StateMapping.decodeTable =
        .ok (keyed LinkStatus.ofCode admin) := table_carries.withDefault adminRead
    simp only [StateMapping.decode, record, operStates, adminStates, build, bind, Except.bind]
    cases StateTable.build statusConflict (keyed LinkStatus.ofCode oper) with
    | error cause => rfl
    | ok first => cases StateTable.build statusConflict (keyed LinkStatus.ofCode admin) <;> rfl
  · next value =>
    obtain ⟨pairs, read, shaped⟩ := bind_eq_ok.1 shaped
    cases shaped
    simp only [StateMapping.decode, decodePairs_of_shape read, build, bind, Except.bind]
    cases StateTable.build pairConflict
      (keyed (Prod.map LinkStatus.ofCode LinkStatus.ofCode) (inGroups pairs)) <;> rfl
  · cases shaped

section Entries
variable {oper admin : List (List String × Nat)} {pairs : List (String × String × Nat)}
  {s o a : String} {n : Nat}

@[simp]
theorem oper_mem_independent :
    (.oper s, n) ∈ (independent oper admin).entries ↔ (s, n) ∈ listing oper := by
  simp [entries]

@[simp]
theorem admin_mem_independent :
    (.admin s, n) ∈ (independent oper admin).entries ↔ (s, n) ∈ listing admin := by
  simp [entries]

@[simp]
theorem pair_notMem_independent : (.pair o a, n) ∉ (independent oper admin).entries := by
  simp [entries]

@[simp]
theorem pair_mem_combined :
    (.pair o a, n) ∈ (combined pairs).entries ↔ ((o, a), n) ∈ listing (inGroups pairs) := by
  simp [entries, listing, inGroups, List.flatMap_map]

@[simp]
theorem oper_notMem_combined : (.oper s, n) ∉ (combined pairs).entries := by
  simp [entries]

@[simp]
theorem admin_notMem_combined : (.admin s, n) ∉ (combined pairs).entries := by
  simp [entries]

end Entries

theorem build_succeeds_iff :
    (∃ m, w.build = .ok m) ↔
      (∀ n ∈ w.states, n ≤ 3) ∧
        ∀ a n b k, (a, n) ∈ w.entries → (b, k) ∈ w.entries →
          a.map Text.trim = b.map Text.trim → n = k := by
  cases w with
  | independent oper admin =>
    have both : (∃ m, (independent oper admin).build = .ok m) ↔
        (∃ t, StateTable.build statusConflict (keyed LinkStatus.ofCode oper) = .ok t) ∧
          ∃ t, StateTable.build statusConflict (keyed LinkStatus.ofCode admin) = .ok t := by
      simp only [build, bind_eq_ok, pure_eq_ok]
      constructor
      · exact fun ⟨_, t, first, t', second, _⟩ => ⟨⟨t, first⟩, t', second⟩
      · exact fun ⟨⟨t, first⟩, t', second⟩ => ⟨_, t, first, t', second, rfl⟩
    have known : (∀ n ∈ (independent oper admin).states, n ≤ 3) ↔
        (∀ e ∈ oper, e.2 ≤ 3) ∧ ∀ e ∈ admin, e.2 ≤ 3 := by
      simp only [states, List.forall_mem_map, List.forall_mem_append]
    rw [both, StateTable.build_succeeds_iff, StateTable.build_succeeds_iff, known, and_and_and_comm]
    simp [LinkStatus.ofCode_eq_iff, Subject.forall_iff, Subject.map]
  | combined pairs =>
    have one : (∃ m, (combined pairs).build = .ok m) ↔
        ∃ t, StateTable.build pairConflict
            (keyed (Prod.map LinkStatus.ofCode LinkStatus.ofCode) (inGroups pairs)) = .ok t := by
      simp only [build, bind_eq_ok, pure_eq_ok]
      exact ⟨fun ⟨_, t, built, _⟩ => ⟨t, built⟩, fun ⟨t, built⟩ =>
        ⟨_, t, built, rfl⟩⟩
    have known : (∀ n ∈ (combined pairs).states, n ≤ 3) ↔
        ∀ e ∈ inGroups pairs, e.2 ≤ 3 := by
      simp only [states, inGroups, List.forall_mem_map]
    rw [one, StateTable.build_succeeds_iff, known]
    simp [LinkStatus.ofCode_eq_iff, Subject.forall_iff, Subject.map]

theorem lookup_of_build {m : StateMapping} (built : w.build = .ok m) (subject : Subject LinkStatus)
    (state : State) :
    m.lookup subject = some state ↔
      ∃ a, (a, state.code) ∈ w.entries ∧ a.map LinkStatus.ofCode = subject := by
  rw [Subject.exists_iff]
  cases w with
  | independent oper admin =>
    obtain ⟨operStates, builtOper, built⟩ := bind_eq_ok.1 built
    obtain ⟨adminStates, builtAdmin, built⟩ := bind_eq_ok.1 built
    cases built
    cases subject with
    | oper status => simp [lookup, mappedOper, StateTable.lookup_of_build builtOper, Subject.map]
    | admin status => simp [lookup, mappedAdmin, StateTable.lookup_of_build builtAdmin, Subject.map]
    | pair o a => simp [lookup, Subject.map]
  | combined pairs =>
    obtain ⟨pairStates, builtPairs, built⟩ := bind_eq_ok.1 built
    cases built
    cases subject with
    | oper status => simp [lookup, mappedOper, Subject.map]
    | admin status => simp [lookup, mappedAdmin, Subject.map]
    | pair o a => simp [lookup, StateTable.lookup_of_build builtPairs, Subject.map]

section Permuted
variable {w' : Written}

theorem Permuted.mem_states (h : w.Permuted w') (n : Nat) : n ∈ w.states ↔ n ∈ w'.states := by
  cases w <;> cases w'
  · exact ((h.1.append h.2).map _).mem_iff
  · exact h.elim
  · exact h.elim
  · exact (List.Perm.map _ h).mem_iff

theorem Permuted.mem_entries (h : w.Permuted w') (e : Subject String × Nat) :
    e ∈ w.entries ↔ e ∈ w'.entries := by
  cases w <;> cases w'
  · exact (((h.1.flatMap_right _).map _).append ((h.2.flatMap_right _).map _)).mem_iff
  · exact h.elim
  · exact h.elim
  · exact (List.Perm.map _ h).mem_iff

end Permuted

end Written

/-- A mapping of the right shape is decoded if and only if its monitoring states are known and no
state or pair of states is given two of them. Each lookup then returns what is written for the
state, and nothing for one that is not there, and the order in which the entries are written changes
nothing. -/
theorem decode_written {json : Json} {w : Written} (shaped : Written.decode json = .ok w) :
    ((∃ m, decode json = .ok m) ↔
        (∀ n ∈ w.states, n ≤ 3) ∧
          ∀ a n b k, (a, n) ∈ w.entries → (b, k) ∈ w.entries →
            a.map Text.trim = b.map Text.trim → n = k) ∧
      (∀ m, decode json = .ok m → ∀ subject state,
        m.lookup subject = some state ↔
          ∃ a, (a, state.code) ∈ w.entries ∧ a.map LinkStatus.ofCode = subject) ∧
      ∀ json' w', Written.decode json' = .ok w' → w.Permuted w' →
        ((∃ m, decode json = .ok m) ↔ ∃ m, decode json' = .ok m) ∧
          ∀ m m', decode json = .ok m → decode json' = .ok m' → ∀ subject,
            m.lookup subject = m'.lookup subject := by
  have decoded_iff {json : Json} {w : Written} (shaped : Written.decode json = .ok w)
      (m : StateMapping) :
      decode json = .ok m ↔ w.build = .ok m := by
    rw [Written.decode_of_shape shaped]
    cases w.build <;> simp [Decoded.ofConfig]
  simp only [decoded_iff shaped]
  refine ⟨Written.build_succeeds_iff, fun m =>
    Written.lookup_of_build, fun json' w' shaped' permuted => ?_⟩
  simp only [decoded_iff shaped']
  constructor
  · simp only [Written.build_succeeds_iff, permuted.mem_states, permuted.mem_entries]
  · intro m m' built built' subject
    refine Option.ext fun state => ?_
    simp only [Written.lookup_of_build built, Written.lookup_of_build built', permuted.mem_entries]

def repeatedCode : Json :=
  .obj [("independent_mappings", .obj [("map_operstates",
    .arr [.arr [.arr [.str "2", .str "7"], .int 1], .arr [.arr [.str " 2 "], .int 1]])])]

theorem lookup_of_repeatedCode :
    ∃ m, decode repeatedCode = .ok m ∧ m.lookup (.oper .down) = some .warn ∧
      m.lookup (.oper .lowerLayerDown) = some .warn ∧
      m.lookup (.admin .down) = none := by
  have shaped : Written.decode repeatedCode =
      .ok (.independent [(["2", "7"], 1), ([" 2 "], 1)] []) := rfl
  have warnings : ∀ e ∈ (Written.independent [(["2", "7"], 1), ([" 2 "], 1)] []).entries,
      e.2 = 1 := by
    simp [Written.entries, StateTable.listing]
  obtain ⟨success, lookups, -⟩ := decode_written shaped
  obtain ⟨m, decoded⟩ := success.2 ⟨by decide, fun a n b k first second _ =>
    (warnings _ first).trans (warnings _ second).symm⟩
  refine ⟨m, decoded, (lookups m decoded _ _).2 ⟨.oper "2", List.mem_cons_self, rfl⟩,
    (lookups m decoded _ _).2 ⟨.oper "7", List.mem_cons_of_mem _ List.mem_cons_self, rfl⟩, ?_⟩
  refine Option.eq_none_iff_forall_ne_some.2 fun state found => ?_
  obtain ⟨a, listed, same⟩ := (lookups m decoded _ _).1 found
  cases a with
  | oper s | pair o a => cases same
  | admin s => cases Written.admin_mem_independent.1 listed

end StateMapping

end IfaceMonitor
