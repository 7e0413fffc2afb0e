import IfaceMonitor.Link.Node
import IfaceMonitor.Proofs.Rate.Measurement

namespace IfaceMonitor

def dots (text : String) : Nat :=
  text.toList.count '.'

theorem append_dot_inj {a b x y : String} (same : dots a = dots b) :
    a ++ "." ++ x = b ++ "." ++ y ↔ a = b ∧ x = y := by
  -- The longer one of the first texts has the dot of the other one in it.
  have shorter {xs ys us vs : List Char} (counts : xs.count '.' = us.count '.')
      (h : ∃ between, us = xs ++ between ∧ '.' :: ys = between ++ '.' :: vs) :
      xs = us ∧ ys = vs := by
    obtain ⟨between, rfl, h⟩ := h
    cases between with
    | nil => exact ⟨(List.append_nil xs).symm, (List.cons.inj h).2⟩
    | cons c rest =>
      obtain ⟨rfl, -⟩ := List.cons.inj h
      rw [List.count_append, List.count_cons_self] at counts
      omega
  constructor
  · intro h
    have lists : a.toList ++ '.' :: x.toList = b.toList ++ '.' :: y.toList := by
      simpa using congrArg String.toList h
    rcases List.append_eq_append_iff.1 lists with h | h
    · obtain ⟨first, second⟩ := shorter same h
      exact ⟨String.toList_inj.1 first, String.toList_inj.1 second⟩
    · obtain ⟨first, second⟩ := shorter same.symm h
      exact ⟨(String.toList_inj.1 first).symm, (String.toList_inj.1 second).symm⟩
  · rintro ⟨rfl, rfl⟩
    rfl

theorem Counter.dots_name (c : Counter) : dots c.name = 0 := by
  cases c <;> decide

theorem sampleKey_eq_iff {c d : Counter} {x y : String} :
    sampleKey c x = sampleKey d y ↔ c = d ∧ x = y := by
  rw [sampleKey, sampleKey, append_dot_inj (c.dots_name.trans d.dots_name.symm)]
  exact and_congr_left' ⟨Counter.name_injective, congrArg Counter.name⟩

theorem keyOfAverage_sampleKey (c : Counter) (identity : String) :
    SampleStore.keyOfAverage (sampleKey c identity) = sampleKey c (identity ++ ".average") := by
  simp only [SampleStore.keyOfAverage, sampleKey, String.append_assoc]

namespace Attributes

def storeKeys (a : Attributes) : List String :=
  Counter.all.flatMap fun c =>
    [sampleKey c a.identity, SampleStore.keyOfAverage (sampleKey c a.identity)]

theorem mem_storeKeys {a : Attributes} {key : String} :
    key ∈ a.storeKeys ↔
      ∃ c, key = sampleKey c a.identity ∨ key = sampleKey c (a.identity ++ ".average") := by
  simp only [storeKeys, List.mem_flatMap, List.mem_cons, List.not_mem_nil, or_false,
    keyOfAverage_sampleKey, Counter.mem_all, true_and]

/-- Two identities that are the same text, or one of which is that of the averages of the other. -/
def Confused (a b : Attributes) : Prop :=
  a.identity = b.identity ∨ a.identity ++ ".average" = b.identity ∨
    a.identity = b.identity ++ ".average"

instance (a b : Attributes) : Decidable (a.Confused b) :=
  inferInstanceAs (Decidable (_ ∨ _ ∨ _))

theorem keys_meet_iff (a b : Attributes) :
    (∃ key ∈ a.storeKeys, key ∈ b.storeKeys) ↔ a.Confused b := by
  simp only [mem_storeKeys]
  constructor
  · rintro ⟨key, ⟨c, rfl | rfl⟩, d, h | h⟩
    · exact Or.inl (sampleKey_eq_iff.1 h).2
    · exact Or.inr (Or.inr (sampleKey_eq_iff.1 h).2)
    · exact Or.inr (Or.inl (sampleKey_eq_iff.1 h).2)
    · exact Or.inl ((String.append_left_inj _).1 (sampleKey_eq_iff.1 h).2)
  · rintro (same | longer | shorter)
    · exact ⟨sampleKey .inOctets a.identity, ⟨_, Or.inl rfl⟩, _, Or.inl (by rw [same])⟩
    · exact ⟨sampleKey .inOctets (a.identity ++ ".average"), ⟨_, Or.inr rfl⟩, _,
        Or.inl (by rw [longer])⟩
    · exact ⟨sampleKey .inOctets a.identity, ⟨_, Or.inl rfl⟩, _, Or.inr (by rw [shorter])⟩

structure DottedAlike (a b : Attributes) : Prop where
  index : dots a.index = dots b.index
  descr : dots a.descr = dots b.descr
  aliasName : dots a.aliasName = dots b.aliasName

theorem identity_eq_iff {a b : Attributes} (alike : a.DottedAlike b) (x y : String) :
    a.identity ++ x = b.identity ++ y ↔
      a.index = b.index ∧ a.descr = b.descr ∧ a.aliasName = b.aliasName ∧
        a.nodeName ++ x = b.nodeName ++ y := by
  have nested (a : Attributes) (x : String) :
      a.identity ++ x = a.index ++ "." ++
          (a.descr ++ "." ++ (a.aliasName ++ "." ++ (a.nodeName ++ x))) := by
    simp only [identity, String.append_assoc]
  rw [nested, nested, append_dot_inj alike.index, append_dot_inj alike.descr,
    append_dot_inj alike.aliasName]

theorem confused_iff_of_dots {a b : Attributes} (alike : a.DottedAlike b) :
    a.Confused b ↔
      a.index = b.index ∧ a.descr = b.descr ∧ a.aliasName = b.aliasName ∧
        (a.nodeName = b.nodeName ∨ a.nodeName ++ ".average" = b.nodeName ∨
          a.nodeName = b.nodeName ++ ".average") := by
  have equal := identity_eq_iff alike "" ""
  have longer := identity_eq_iff alike ".average" ""
  have shorter := identity_eq_iff alike "" ".average"
  simp only [String.append_empty] at equal longer shorter
  rw [Confused, equal, longer, shorter]
  simp only [and_or_left]

end Attributes

/-- Two interfaces share history exactly if their identities are confused. Where their texts have
equally many dots, that takes the same index, description and alias, and the same node or one that
is named like the averages of the other. -/
theorem storeKeys_disjoint_iff (a b : Attributes) :
    (a.storeKeys.Disjoint b.storeKeys ↔ ¬a.Confused b) ∧
      (a.DottedAlike b →
        (a.Confused b ↔ a.index = b.index ∧ a.descr = b.descr ∧ a.aliasName = b.aliasName ∧
          (a.nodeName = b.nodeName ∨ a.nodeName ++ ".average" = b.nodeName ∨
            a.nodeName = b.nodeName ++ ".average"))) := by
  refine ⟨?_, Attributes.confused_iff_of_dots⟩
  rw [← Attributes.keys_meet_iff]
  constructor
  · rintro apart ⟨key, here, there⟩
    exact apart here there
  · exact fun apart key here there => apart ⟨key, here, there⟩

def aliasedPort (aliasName : String) : Interface where
  attributes :=
    { index := "1", descr := "eth0", aliasName, typeCode := "6", speed := 0.0, operStatus := .up,
      adminStatus := none, address := .empty, outQueue := none, speedText := "", group := none,
      node := none, extraInfo := none }
  traffic := .counters { PerCounter.missing with inOctets := some 1000 }

theorem storeKeys_apart_on_nodes :
    ((aliasedPort "lan").onNode "a").attributes.storeKeys.Disjoint
      ((aliasedPort "lan").onNode "b").attributes.storeKeys := by
  have alike : ((aliasedPort "lan").onNode "a").attributes.DottedAlike
      ((aliasedPort "lan").onNode "b").attributes :=
    ⟨rfl, rfl, rfl⟩
  obtain ⟨apart, same⟩ := storeKeys_disjoint_iff ((aliasedPort "lan").onNode "a").attributes
    ((aliasedPort "lan").onNode "b").attributes
  rw [apart, same alike]
  decide

theorem storeKeys_meet_across_nodes :
    ∃ i ∈ Section.ofNodes [("site", [aliasedPort "lan.fw"]), ("fw.site", [aliasedPort "lan"])],
      ∃ j ∈ Section.ofNodes
        [("site", [aliasedPort "lan.fw"]), ("fw.site", [aliasedPort "lan"])],
        i.attributes.node ≠ j.attributes.node ∧ ∃ key ∈ i.attributes.storeKeys,
          key ∈ j.attributes.storeKeys := by
  refine ⟨(aliasedPort "lan.fw").onNode "site", .head _, (aliasedPort "lan").onNode "fw.site",
    .tail _ (.head _), ?_, ?_⟩
  · decide
  · rw [Attributes.keys_meet_iff]
    decide

theorem Measured.measure_get?_of_notMem (i : Interface) (time : Float) (averaging : Averaging)
    (store : SampleStore) {key : String} (other : key ∉ i.attributes.storeKeys) :
    (measure i time averaging store).2.get? key = store.get? key := by
  have no_sample (c : Counter) : key ≠ sampleKey c i.attributes.identity :=
    fun h => other (Attributes.mem_storeKeys.2 ⟨c, Or.inl h⟩)
  have no_average (c : Counter) :
      key ≠ SampleStore.keyOfAverage (sampleKey c i.attributes.identity) :=
    fun h => other
      (Attributes.mem_storeKeys.2 ⟨c, Or.inr (h.trans (keyOfAverage_sampleKey c _))⟩)
  exact measure_get?_of_ne i time averaging store (fun c _ => no_sample c) fun c _ _ => no_average c

end IfaceMonitor
