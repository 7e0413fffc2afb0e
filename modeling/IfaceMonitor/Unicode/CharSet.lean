/-!
Sets of characters as ranges of code points. Ranges ascend with a gap between neighbours, so that
equal sets are equal values; whatever ranges a set is made of, `ofRanges` brings them into this
form. Surrogates are no characters and belong to no complement.
-/

namespace IfaceMonitor.Unicode

/-- Ranges of at least one code point with a gap before the next range. -/
def Ascending (ranges : List (Nat × Nat)) : Prop :=
  (∀ r ∈ ranges, r.1 ≤ r.2) ∧ ranges.Pairwise fun a b => a.2 + 1 < b.1

def joinFirst (r : Nat × Nat) : List (Nat × Nat) → List (Nat × Nat)
  | [] => [r]
  | s :: rest => if s.1 ≤ r.2 + 1 then joinFirst (r.1, Nat.max r.2 s.2) rest else r :: s :: rest

def insertRange (r : Nat × Nat) : List (Nat × Nat) → List (Nat × Nat)
  | [] => if r.1 ≤ r.2 then [r] else []
  | s :: rest =>
    if r.2 < r.1 then s :: rest
    else if r.1 ≤ s.1 then joinFirst r (s :: rest)
    else joinFirst s (insertRange r rest)

theorem joinFirst_ascending {r : Nat × Nat} {rs : List (Nat × Nat)} (hr : r.1 ≤ r.2)
    (h : Ascending rs) (le : ∀ s ∈ rs, r.1 ≤ s.1) :
    Ascending (joinFirst r rs) ∧ ∀ s ∈ joinFirst r rs, r.1 ≤ s.1 := by
  induction rs generalizing r with
  | nil => simp [joinFirst, Ascending, hr]
  | cons s rest ih =>
    have tail : Ascending rest :=
      ⟨fun x hx => h.1 x (by simp [hx]), (List.pairwise_cons.1 h.2).2⟩
    unfold joinFirst
    split
    · exact ih (r := (r.1, Nat.max r.2 s.2)) (Nat.le_trans hr (Nat.le_max_left ..)) tail
        fun x hx => le x (by simp [hx])
    · rename_i gap
      have after : ∀ x ∈ s :: rest, r.2 + 1 < x.1 := by
        intro x hx
        rcases List.mem_cons.1 hx with rfl | hx
        · omega
        · have := (List.pairwise_cons.1 h.2).1 x hx
          have := h.1 s (by simp)
          omega
      refine ⟨⟨?_, List.pairwise_cons.2 ⟨after, h.2⟩⟩, ?_⟩
      · intro x hx
        rcases List.mem_cons.1 hx with rfl | hx
        · exact hr
        · exact h.1 x hx
      · intro x hx
        rcases List.mem_cons.1 hx with rfl | hx
        · exact Nat.le_refl _
        · exact le x hx

theorem insertRange_ascending {r : Nat × Nat} {rs : List (Nat × Nat)} (h : Ascending rs) :
    Ascending (insertRange r rs) ∧ ∀ m, m ≤ r.1 → (∀ s ∈ rs, m ≤ s.1) →
      ∀ s ∈ insertRange r rs, m ≤ s.1 := by
  induction rs with
  | nil =>
    unfold insertRange
    split
    · rename_i hr
      exact ⟨⟨by simp [hr], by simp⟩, fun m hm _ => by simp [hm]⟩
    · exact ⟨h, by simp⟩
  | cons s rest ih =>
    have tail : Ascending rest :=
      ⟨fun x hx => h.1 x (by simp [hx]), (List.pairwise_cons.1 h.2).2⟩
    have hs := h.1 s (by simp)
    have after := (List.pairwise_cons.1 h.2).1
    unfold insertRange
    split
    · exact ⟨h, fun m _ le => le⟩
    split
    · rename_i hr le
      have joined := joinFirst_ascending (r := r) (by omega) h (by
        intro x hx
        rcases List.mem_cons.1 hx with rfl | hx
        · exact le
        · have := after x hx
          omega)
      exact ⟨joined.1, fun m hm _ x hx => Nat.le_trans hm (joined.2 x hx)⟩
    · rename_i hr lt
      have joined := joinFirst_ascending hs (ih tail).1 ((ih tail).2 s.1 (by omega) fun x hx => by
        have := after x hx
        omega)
      exact ⟨joined.1, fun m _ le x hx => Nat.le_trans (le s (by simp)) (joined.2 x hx)⟩

theorem foldr_insertRange_ascending (rs : List (Nat × Nat)) :
    Ascending (rs.foldr insertRange []) := by
  induction rs with
  | nil => exact ⟨by simp, by simp⟩
  | cons r rest ih => exact (insertRange_ascending ih).1

structure CharSet where
  ranges : List (Nat × Nat)
  ascending : Ascending ranges
  deriving DecidableEq

namespace CharSet

def ofRanges (ranges : List (Nat × Nat)) : CharSet :=
  ⟨ranges.foldr insertRange [], foldr_insertRange_ascending ranges⟩

def everySecond (ranges : List (Nat × Nat)) : CharSet :=
  ofRanges (ranges.flatMap fun r =>
    (List.range ((r.2 - r.1) / 2 + 1)).map fun n => (r.1 + 2 * n, r.1 + 2 * n))

def ofCodes (codes : List Nat) : CharSet :=
  ofRanges (codes.map fun code => (code, code))

def ofChar (c : Char) : CharSet :=
  ofRanges [(c.toNat, c.toNat)]

def empty : CharSet :=
  ofRanges []

def isEmpty (s : CharSet) : Bool :=
  s.ranges.isEmpty

def containedIn (code : Nat) : List (Nat × Nat) → Bool
  | [] => false
  | r :: rest => r.1 ≤ code && (code ≤ r.2 || containedIn code rest)

def contains (s : CharSet) (code : Nat) : Bool :=
  containedIn code s.ranges

/-- Ranges of two lists in the order of their first code points; `fuel` is at least the number of
ranges. -/
def mergeRanges : Nat → List (Nat × Nat) → List (Nat × Nat) → List (Nat × Nat)
  | 0, rs, ss => rs ++ ss
  | _, [], ss => ss
  | _, rs, [] => rs
  | fuel + 1, r :: rs, s :: ss =>
    if r.1 ≤ s.1 then r :: mergeRanges fuel rs (s :: ss) else s :: mergeRanges fuel (r :: rs) ss

def union (a b : CharSet) : CharSet :=
  ofRanges (mergeRanges (a.ranges.length + b.ranges.length) a.ranges b.ranges)

def surrogates : Nat × Nat :=
  (0xD800, 0xDFFF)

def lastCode : Nat :=
  0x10FFFF

def gaps (next : Nat) : List (Nat × Nat) → List (Nat × Nat)
  | [] => [(next, lastCode)]
  | r :: rest => if next < r.1 then (next, r.1 - 1) :: gaps (r.2 + 1) rest else gaps (r.2 + 1) rest

def compl (a : CharSet) : CharSet :=
  ofRanges (gaps 0 (insertRange surrogates a.ranges))

def inter (a b : CharSet) : CharSet :=
  (a.compl.union b.compl).compl

def diff (a b : CharSet) : CharSet :=
  (a.compl.union b).compl

instance : Union CharSet := ⟨union⟩

instance : Inter CharSet := ⟨inter⟩

instance : SDiff CharSet := ⟨diff⟩

def symmDiff (a b : CharSet) : CharSet :=
  (a \ b) ∪ (b \ a)

def unionOf (sets : List CharSet) : CharSet :=
  sets.foldr (· ∪ ·) empty

def single? (s : CharSet) : Option Char :=
  match s.ranges with
  | [(a, b)] => if a = b then some (Char.ofNat a) else none
  | _ => none

def any : CharSet :=
  compl empty

def ascii : CharSet :=
  ofRanges [(0, 0x7F)]

def isAscii (s : CharSet) : Bool :=
  s.ranges.all fun r => r.2 < 0x80

end CharSet

end IfaceMonitor.Unicode
