import IfaceMonitor.Proofs.Json.Record
import IfaceMonitor.Store.Samples

namespace IfaceMonitor

namespace Sample

structure IsFinite (s : Sample) : Prop where
  time : s.time.isFinite = true
  value : s.value.isFinite = true

structure Survives (s : Sample) : Prop where
  time : s.time.isFinite = true → Json.Survives s.time
  value : s.value.isFinite = true → Json.Survives s.value

instance (s : Sample) : Decidable s.IsFinite :=
  decidable_of_iff (s.time.isFinite = true ∧ s.value.isFinite = true)
    ⟨fun both => ⟨both.1, both.2⟩, fun finite => ⟨finite.time, finite.value⟩⟩

instance (s : Sample) : Decidable s.Survives :=
  decidable_of_iff ((s.time.isFinite = true → Json.Survives s.time) ∧
    (s.value.isFinite = true → Json.Survives s.value))
    ⟨fun both => ⟨both.1, both.2⟩, fun survives => ⟨survives.time, survives.value⟩⟩

theorem decode_encode {s t : Sample} : decode s.encode = .ok t ↔ s.IsFinite ∧ s = t := by
  obtain ⟨time, value⟩ := s
  obtain ⟨time', value'⟩ := t
  simp only [decode, encode, Json.pair, bind_eq_ok, pure_eq_ok, Json.double_ofFloat,
    Sample.mk.injEq, Prod.exists, Prod.mk.injEq]
  constructor
  · rintro ⟨_, _, ⟨_, ⟨later, rfl⟩, _, ⟨finite, rfl⟩, rfl, rfl⟩, same⟩
    exact ⟨⟨later, finite⟩, same⟩
  · rintro ⟨⟨later, finite⟩, same⟩
    exact ⟨time, value, ⟨time, ⟨later, rfl⟩, value, ⟨finite, rfl⟩, rfl, rfl⟩, same⟩

theorem writable_encode {s : Sample} (survives : s.Survives) (levels : Nat) :
    Json.Writable (levels + 1) s.encode :=
  ⟨Nat.succ_pos levels, Json.writable_ofFloat survives.time,
    Json.writable_ofFloat survives.value, trivial⟩

end Sample

namespace HostStore

def All (p : Sample → Prop) (host : HostStore) : Prop :=
  ∀ item key sample, (host.samplesOf item).get? key = some sample → p sample

def IsFinite : HostStore → Prop :=
  All Sample.IsFinite

def Survives : HostStore → Prop :=
  All Sample.Survives

theorem all_iff {p : Sample → Prop} {host : HostStore} :
    host.All p ↔ ∀ stored ∈ host.entries, ∀ kept ∈ stored.2.entries, p kept.2 := by
  constructor
  · rintro all ⟨item, store⟩ stored ⟨key, sample⟩ kept
    refine all item key sample ?_
    rw [samplesOf, Table.mem_entries.1 stored, Option.getD_some]
    exact Table.mem_entries.1 kept
  · intro all item key sample found
    rw [samplesOf] at found
    cases stored : host.get? item with
    | none =>
      rw [stored] at found
      cases found
    | some store =>
      rw [stored] at found
      exact all (item, store) (Table.mem_entries.2 stored) (key, sample) (Table.mem_entries.2 found)

instance {p : Sample → Prop} [DecidablePred p] (host : HostStore) : Decidable (host.All p) :=
  decidable_of_iff (∀ stored ∈ host.entries, ∀ kept ∈
    stored.2.entries, p kept.2) all_iff.symm

instance (host : HostStore) : Decidable host.IsFinite :=
  inferInstanceAs (Decidable (host.All Sample.IsFinite))

instance (host : HostStore) : Decidable host.Survives :=
  inferInstanceAs (Decidable (host.All Sample.Survives))

theorem decode_encode {host : HostStore} (finite : host.IsFinite) : decode host.encode = .ok host :=
  Json.table_ofTable fun stored listed => Json.table_ofTable fun kept sampled =>
    Sample.decode_encode.2 ⟨all_iff.1 finite stored listed kept sampled, rfl⟩

theorem isFinite_of_decode {host read : HostStore} (decoded : decode host.encode = .ok read) :
    host.IsFinite := by
  refine all_iff.2 fun stored listed kept sampled => ?_
  obtain ⟨store, own⟩ := Json.decodes_of_table decoded listed
  obtain ⟨sample, single⟩ := Json.decodes_of_table own sampled
  exact (Sample.decode_encode.1 single).1

theorem writable_encode {host : HostStore} (survives : host.Survives) :
    Json.Writable Json.maxLevels host.encode :=
  Json.writable_ofTable fun stored listed => Json.writable_ofTable fun kept sampled =>
    Sample.writable_encode (all_iff.1 survives stored listed kept sampled) 124

end HostStore

end IfaceMonitor
