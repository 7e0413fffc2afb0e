/-!
Finite tables with text keys, kept as a list that is sorted by key. The order makes the list
canonical: two tables with the same look-ups are equal (`Table.ext_get?`), and every listing is in
key order.
-/

namespace IfaceMonitor

structure Table (α : Type) where
  entries : List (String × α)
  sorted : entries.Pairwise fun a b => a.1 < b.1

namespace Table

variable {α : Type}

def lookupIn (key : String) : List (String × α) → Option α
  | [] => none
  | (other, value) :: rest => if other = key then some value else lookupIn key rest

def insertIn (key : String) (value : α) : List (String × α) → List (String × α)
  | [] => [(key, value)]
  | (other, old) :: rest =>
    if key < other then (key, value) :: (other, old) :: rest
    else if key = other then (key, value) :: rest
    else (other, old) :: insertIn key value rest

theorem mem_insertIn {key : String} {value : α} {entries : List (String × α)} {e : String × α}
    (h : e ∈ insertIn key value entries) : e = (key, value) ∨ e ∈ entries := by
  induction entries with
  | nil => simpa [insertIn] using h
  | cons first rest ih =>
    obtain ⟨other, old⟩ := first
    rw [insertIn] at h
    split at h
    · simpa using h
    · split at h
      · rcases List.mem_cons.1 h with h | h
        · exact .inl h
        · exact .inr (List.mem_cons_of_mem _ h)
      · rcases List.mem_cons.1 h with h | h
        · exact .inr (h ▸ List.mem_cons_self)
        · exact (ih h).imp id (List.mem_cons_of_mem _)

theorem lt_of_not_lt_of_ne {a b : String} (h : ¬a < b) (hne : a ≠ b) : b < a := by
  rcases Decidable.em (b < a) with h' | h'
  · exact h'
  · exact absurd (String.le_antisymm (String.not_lt.1 h') (String.not_lt.1 h)) hne

theorem sorted_insertIn (key : String) (value : α) {entries : List (String × α)}
    (h : entries.Pairwise fun a b => a.1 < b.1) :
    (insertIn key value entries).Pairwise fun a b => a.1 < b.1 := by
  induction entries with
  | nil => simp [insertIn]
  | cons first rest ih =>
    obtain ⟨other, old⟩ := first
    obtain ⟨hfirst, hrest⟩ := List.pairwise_cons.1 h
    rw [insertIn]
    split
    · rename_i hlt
      refine List.pairwise_cons.2 ⟨fun e he => ?_, h⟩
      rcases List.mem_cons.1 he with he | he
      · exact he ▸ hlt
      · exact String.lt_trans hlt (hfirst e he)
    · split
      · rename_i heq
        exact List.pairwise_cons.2 ⟨fun e he => heq ▸ hfirst e he, hrest⟩
      · rename_i hlt hne
        refine List.pairwise_cons.2 ⟨fun e he => ?_, ih hrest⟩
        rcases mem_insertIn he with he | he
        · exact he ▸ lt_of_not_lt_of_ne hlt hne
        · exact hfirst e he

def empty : Table α := ⟨[], List.Pairwise.nil⟩

def get? (t : Table α) (key : String) : Option α :=
  lookupIn key t.entries

def insert (t : Table α) (key : String) (value : α) : Table α :=
  ⟨insertIn key value t.entries, sorted_insertIn key value t.sorted⟩

def filterKeys (t : Table α) (p : String → Bool) : Table α :=
  ⟨t.entries.filter fun e => p e.1, t.sorted.filter _⟩

def erase (t : Table α) (key : String) : Table α :=
  t.filterKeys (· != key)

def keys (t : Table α) : List String :=
  t.entries.map (·.1)

def size (t : Table α) : Nat :=
  t.entries.length

def isEmpty (t : Table α) : Bool :=
  t.entries.isEmpty

def ofList (entries : List (String × α)) : Table α :=
  entries.foldl (fun t e => t.insert e.1 e.2) empty

theorem lookupIn_insertIn (key : String) (value : α) (entries : List (String × α)) (k : String) :
    lookupIn k (insertIn key value entries) = if key =
      k then some value else lookupIn k entries := by
  induction entries with
  | nil => simp [insertIn, lookupIn]
  | cons first rest ih =>
    obtain ⟨other, old⟩ := first
    rw [insertIn]
    split
    · simp [lookupIn]
    · split
      · rename_i heq
        subst heq
        simp only [lookupIn]
        split <;> rfl
      · rename_i hne
        simp only [lookupIn, ih]
        grind

@[simp] theorem get?_insert (t : Table α) (key : String) (value : α) (k : String) :
    (t.insert key value).get? k = if key = k then some value else t.get? k :=
  lookupIn_insertIn key value t.entries k

@[simp] theorem get?_empty (k : String) : (empty : Table α).get? k = none := rfl

theorem lookupIn_filter (p : String → Bool) (entries : List (String × α)) (k : String) :
    lookupIn k (entries.filter fun e => p e.1) = if p k then lookupIn k entries else none := by
  induction entries with
  | nil => simp [lookupIn]
  | cons first rest ih =>
    obtain ⟨other, old⟩ := first
    simp only [List.filter_cons, lookupIn]
    split <;> simp only [lookupIn, ih] <;> grind

@[simp] theorem get?_filterKeys (t : Table α) (p : String → Bool) (k : String) :
    (t.filterKeys p).get? k = if p k then t.get? k else none :=
  lookupIn_filter p t.entries k

theorem lookupIn_eq_none_of_lt {k : String} {entries : List (String × α)}
    (h : ∀ e ∈ entries, k < e.1) : lookupIn k entries = none := by
  induction entries with
  | nil => rfl
  | cons first rest ih =>
    have hne : first.1 ≠ k := fun heq => String.lt_irrefl k (heq ▸ h first List.mem_cons_self)
    rw [lookupIn, if_neg hne]
    exact ih fun e he => h e (List.mem_cons_of_mem _ he)

theorem lookupIn_head (e : String × α) (rest : List (String × α)) :
    lookupIn e.1 (e :: rest) = some e.2 := by
  rw [lookupIn, if_pos rfl]

theorem not_lt_of_lookupIn {e : String × α} {rest : List (String × α)} {k : String}
    (sorted : (e :: rest).Pairwise fun a b => a.1 < b.1)
    (found : (lookupIn k (e :: rest)).isSome = true) : ¬k < e.1 := by
  intro below
  have absent : lookupIn k (e :: rest) = none :=
    lookupIn_eq_none_of_lt (List.forall_mem_cons.2
      ⟨below, fun other member =>
        String.lt_trans below ((List.pairwise_cons.1 sorted).1 other member)⟩)
  rw [absent] at found
  cases found

theorem entries_eq_of_lookupIn {xs ys : List (String × α)}
    (hx : xs.Pairwise fun a b => a.1 < b.1) (hy : ys.Pairwise fun a b => a.1 < b.1)
    (h : ∀ k, lookupIn k xs = lookupIn k ys) : xs = ys := by
  induction xs generalizing ys with
  | nil =>
    cases ys with
    | nil => rfl
    | cons y ys => simpa [lookupIn] using h y.1
  | cons x xs ih =>
    cases ys with
    | nil => simpa [lookupIn] using h x.1
    | cons y ys =>
      -- each first key is found in the other list, so neither comes before the other
      have hxy : ¬x.1 < y.1 := not_lt_of_lookupIn hy (by rw [← h, lookupIn_head]; rfl)
      have hyx : ¬y.1 < x.1 := not_lt_of_lookupIn hx (by rw [h, lookupIn_head]; rfl)
      have hk : x.1 = y.1 := String.le_antisymm (String.not_lt.1 hyx) (String.not_lt.1 hxy)
      have hv : x.2 = y.2 := by
        have first := h x.1
        rw [lookupIn_head, hk, lookupIn_head] at first
        exact Option.some.inj first
      obtain ⟨hxs, hxt⟩ := List.pairwise_cons.1 hx
      obtain ⟨hys, hyt⟩ := List.pairwise_cons.1 hy
      obtain rfl : x = y := Prod.ext hk hv
      congr 1
      refine ih hxt hyt fun k => ?_
      rcases Decidable.em (x.1 = k) with heq | hne
      · subst heq
        rw [lookupIn_eq_none_of_lt hxs, lookupIn_eq_none_of_lt hys]
      · simpa [lookupIn, hne] using h k

theorem ext_get? {s t : Table α} (h : ∀ k, s.get? k = t.get? k) : s = t := by
  cases s with | mk xs hx =>
  cases t with | mk ys hy =>
  have := entries_eq_of_lookupIn hx hy h
  subst this
  rfl

end Table

end IfaceMonitor
