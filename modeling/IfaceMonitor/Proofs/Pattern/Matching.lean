import IfaceMonitor.Pattern.Regex.Walk
import Mathlib.Data.Finset.Card
import Mathlib.Logic.Relation

/-!
What expressions match. `Regex.Matches` relates the places between which an expression matches, and
a sequence in normal form matches what its parts match in turn (`Regex.matches_sequence`). A
repetition that has more rounds than the subject has characters has a round that takes nothing, so
its rounds can be counted differently (`Rounds.shift`).
-/

namespace IfaceMonitor.Pattern

def Cursor.behind (subject : List Char) (i : Nat) : Cursor :=
  ⟨(subject.take i).getLast?, subject.drop i⟩

namespace Cursor

theorem length_steps (before : Option Char) (cs : List Char) :
    (steps before cs).length = cs.length + 1 := by
  induction cs generalizing before with
  | nil => rfl
  | cons c cs ih => rw [steps, List.length_cons, ih, List.length_cons]

theorem getElem?_steps (before : Option Char) (cs : List Char) {i : Nat}
    (inside : i ≤ cs.length) :
    (steps before cs)[i]? = some ⟨(cs.take i).getLast?.or before, cs.drop i⟩ := by
  induction cs generalizing before i with
  | nil =>
    obtain rfl : i = 0 := Nat.le_zero.1 inside
    rfl
  | cons c cs ih =>
    cases i with
    | zero => rfl
    | succ i =>
      rw [steps, List.getElem?_cons_succ, ih _ (Nat.le_of_succ_le_succ inside), List.take_succ_cons,
        List.getLast?_cons, List.drop_succ_cons]
      cases (cs.take i).getLast? <;> rfl

theorem length_all (subject : List Char) : (all subject).length = subject.length + 1 :=
  length_steps none subject

theorem getElem?_all {subject : List Char} {i : Nat} (inside : i ≤ subject.length) :
    (all subject)[i]? = some (behind subject i) := by
  rw [all, getElem?_steps none subject inside, Option.or_none, behind]

end Cursor

theorem Places.testBit_iff {p : Cursor → Bool} {subject : List Char} {i : Nat} :
    (Places.filter p (Cursor.all subject)).testBit i = true ↔
      i ≤ subject.length ∧ p (Cursor.behind subject i) = true := by
  rw [Places.testBit_filter]
  by_cases inside : i ≤ subject.length
  · simp [Cursor.getElem?_all inside, inside]
  · have beyond : (Cursor.all subject)[i]? = none := by
      rw [List.getElem?_eq_none_iff, Cursor.length_all]
      omega
    simp [beyond, inside]

def Rounds (step : Nat → Nat → Prop) : Nat → Nat → Nat → Prop
  | 0, i, j => i = j
  | n + 1, i, j => ∃ k, step i k ∧ Rounds step n k j

namespace Rounds
variable {step other : Nat → Nat → Prop} {n m i j k : Nat}

theorem one : Rounds step 1 i j ↔ step i j := by
  simp [Rounds]

theorem append (first : Rounds step n i k) (second : Rounds step m k j) :
    Rounds step (n + m) i j := by
  induction n generalizing i with
  | zero =>
    cases first
    rwa [Nat.zero_add]
  | succ n ih =>
    obtain ⟨next, taken, first⟩ := first
    rw [Nat.succ_add]
    exact ⟨next, taken, ih first⟩

theorem add_iff : Rounds step (n + m) i j ↔ ∃ k, Rounds step n i k ∧ Rounds step m k j := by
  refine ⟨fun whole => ?_, fun ⟨k, first, second⟩ => first.append second⟩
  induction n generalizing i with
  | zero => exact ⟨i, rfl, by rwa [Nat.zero_add] at whole⟩
  | succ n ih =>
    rw [Nat.succ_add] at whole
    obtain ⟨next, taken, whole⟩ := whole
    obtain ⟨k, first, second⟩ := ih whole
    exact ⟨k, ⟨next, taken, first⟩, second⟩

theorem transGen_iff : Relation.TransGen step i j ↔ ∃ n, Rounds step (n + 1) i j := by
  constructor
  · intro chain
    induction chain using Relation.TransGen.head_induction_on with
    | single taken => exact ⟨0, one.2 taken⟩
    | head taken _ ih =>
      obtain ⟨n, rest⟩ := ih
      exact ⟨n + 1, _, taken, rest⟩
  · rintro ⟨n, chain⟩
    induction n generalizing i with
    | zero => exact .single (one.1 chain)
    | succ n ih =>
      obtain ⟨k, taken, rest⟩ := chain
      exact .head taken (ih rest)

theorem congr {p : Nat → Prop} (same : ∀ i j, p i → (step i j ↔ other i j))
    (kept : ∀ i j, p i → step i j → p j) (start : p i) :
    Rounds step n i j ↔ Rounds other n i j := by
  induction n generalizing i with
  | zero => exact Iff.rfl
  | succ n ih =>
    refine exists_congr fun k => ?_
    rw [← same i k start]
    exact and_congr_right fun taken => ih (kept i k start taken)

theorem optional_iff :
    Rounds (fun i j => i = j ∨ step i j) n i j ↔ ∃ m ≤ n, Rounds step m i j := by
  induction n generalizing i with
  | zero => simp [Rounds]
  | succ n ih =>
    constructor
    · rintro ⟨k, rfl | taken, rest⟩
      · obtain ⟨m, few, rest⟩ := ih.1 rest
        exact ⟨m, Nat.le_succ_of_le few, rest⟩
      · obtain ⟨m, few, rest⟩ := ih.1 rest
        exact ⟨m + 1, Nat.succ_le_succ few, k, taken, rest⟩
    · rintro ⟨m, few, chain⟩
      cases m with
      | zero => exact ⟨i, Or.inl rfl, ih.2 ⟨0, Nat.zero_le n, chain⟩⟩
      | succ m =>
        obtain ⟨k, taken, rest⟩ := chain
        exact ⟨k, Or.inr taken, ih.2 ⟨m, Nat.le_of_succ_le_succ few, rest⟩⟩

section Forward
variable {last : Nat} (forward : ∀ i j, i ≤ last → step i j → i ≤ j ∧ j ≤ last)
include forward

theorem bounds (inside : i ≤ last) (chain : Rounds step n i j) : i ≤ j ∧ j ≤ last := by
  induction n generalizing i with
  | zero =>
    cases chain
    exact ⟨le_rfl, inside⟩
  | succ n ih =>
    obtain ⟨k, taken, rest⟩ := chain
    obtain ⟨more, inside'⟩ := forward i k inside taken
    obtain ⟨more', inside''⟩ := ih inside' rest
    exact ⟨more.trans more', inside''⟩

theorem idle (inside : i ≤ last) (chain : Rounds step n i j) (many : j < i + n) :
    Rounds step (n - 1) i j ∧ Rounds step (n + 1) i j := by
  induction n generalizing i with
  | zero =>
    cases chain
    exact absurd many (lt_irrefl _)
  | succ n ih =>
    obtain ⟨k, taken, rest⟩ := chain
    obtain ⟨more, inside'⟩ := forward i k inside taken
    rcases more.eq_or_lt with rfl | less
    · exact ⟨rest, i, taken, i, taken, rest⟩
    · obtain ⟨fewer, further⟩ := ih inside' rest (by omega)
      refine ⟨?_, k, taken, further⟩
      cases n with
      | zero =>
        cases rest
        omega
      | succ n => exact ⟨k, taken, fewer⟩

theorem shift (inside : i ≤ last) (many : last < n) (many' : last < m) :
    Rounds step n i j ↔ Rounds step m i j := by
  have next {n : Nat} (many : last < n) : Rounds step n i j ↔ Rounds step (n + 1) i j := by
    constructor
    · intro chain
      have reached := (bounds forward inside chain).2
      exact (idle forward inside chain (by omega)).2
    · intro chain
      have reached := (bounds forward inside chain).2
      exact (idle forward inside chain (by omega)).1
  have above {n : Nat} (many : last < n) : Rounds step (last + 1) i j ↔ Rounds step n i j := by
    induction n, many using Nat.le_induction with
    | base => exact Iff.rfl
    | succ n many ih => exact ih.trans (next many)
  exact (above many).symm.trans (above many')

theorem least_iff (inside : i ≤ last) (min : Nat) :
    (∃ n, Nat.min min (last + 1) ≤ n ∧ Rounds step n i j) ↔
      ∃ n, min ≤ n ∧ Rounds step n i j := by
  constructor
  · rintro ⟨n, enough, chain⟩
    rcases le_total min (last + 1) with few | many
    · exact ⟨n, (Nat.min_eq_left few).symm.le.trans enough, chain⟩
    · have many' : last < n := (Nat.min_eq_right many).symm.le.trans enough
      exact ⟨Nat.max n min, le_max_right n min,
        (shift forward inside many' (lt_max_of_lt_left many')).1 chain⟩
  · rintro ⟨n, enough, chain⟩
    exact ⟨n, (min_le_left min (last + 1)).trans enough, chain⟩

theorem between_iff (inside : i ≤ last) (min max : Nat) :
    (∃ m ≤ Nat.min (max - min) (last + 1), Rounds step (Nat.min min (last + 1) + m) i j) ↔
      ∃ n, min ≤ n ∧ n ≤ Nat.max min max ∧ Rounds step n i j := by
  have split : Nat.min min (last + 1) = min ∨ Nat.min min (last + 1) = last + 1 ∧
      last < min := by
    rcases le_or_gt min (last + 1) with few | many
    · exact Or.inl (Nat.min_eq_left few)
    · exact Or.inr ⟨Nat.min_eq_right many.le, Nat.lt_of_succ_lt many⟩
  have most : Nat.max min max = min + (max - min) := by
    change Max.max min max = min + (max - min)
    omega
  rw [most]
  constructor
  · rintro ⟨m, few, chain⟩
    have bound : m ≤ max - min := few.trans (Nat.min_le_left ..)
    rcases split with same | ⟨capped, many⟩
    · rw [same] at chain
      exact ⟨min + m, by omega, by omega, chain⟩
    · rw [capped] at chain
      exact ⟨min, le_rfl, by omega, (shift forward inside (by omega) many).1 chain⟩
  · rintro ⟨n, enough, bound, chain⟩
    rcases split with same | ⟨capped, many⟩
    · rw [same]
      rcases le_or_gt (n - min) (last + 1) with few | more
      · exact ⟨n - min, Nat.le_min.2 ⟨by omega, few⟩, by rwa [Nat.add_sub_cancel' enough]⟩
      · exact ⟨last + 1, Nat.le_min.2 ⟨by omega, le_rfl⟩,
          (shift forward inside (by omega) (by omega)).1 chain⟩
    · rw [capped]
      exact ⟨0, Nat.zero_le _, (shift forward inside (by omega) (by omega)).1 chain⟩

end Forward

end Rounds

namespace Regex

/-- A match between two places of the subject. A repetition that is counted has at least `min`
rounds, and not more than `max` unless `min` is more. -/
def Matches (subject : List Char) : Regex → Nat → Nat → Prop
  | empty, i, j => i = j
  | literal text, i, j => text <+: subject.drop i ∧ i + text.length = j
  | chars set, i, j => (∃ c, subject[i]? = some c ∧ set.contains c.toNat = true) ∧ i + 1 = j
  | look condition, i, j => condition.holds (Cursor.behind subject i) = true ∧ i = j
  | capture _ body, i, j => body.Matches subject i j
  | times body min max _, i, j =>
    ∃ n, min ≤ n ∧ (∀ most ∈ max, n ≤ Nat.max min most) ∧
    Rounds (body.Matches subject) n i j
  | cat a b, i, j => ∃ k, a.Matches subject i k ∧ b.Matches subject k j
  | alt a b, i, j => a.Matches subject i j ∨ b.Matches subject i j

variable {subject : List Char}

theorem Matches.forward {r : Regex} {i j : Nat} (inside : i ≤ subject.length)
    (matched : r.Matches subject i j) :
    i ≤ j ∧ j ≤ subject.length := by
  induction r generalizing i j with
  | empty =>
    cases matched
    exact ⟨le_rfl, inside⟩
  | literal text =>
    obtain ⟨front, rfl⟩ := matched
    have short := front.length_le
    rw [List.length_drop] at short
    omega
  | chars set =>
    obtain ⟨⟨c, here, -⟩, rfl⟩ := matched
    obtain ⟨bound, -⟩ := List.getElem?_eq_some_iff.1 here
    omega
  | look condition =>
    obtain ⟨-, rfl⟩ := matched
    exact ⟨le_rfl, inside⟩
  | capture index body ih => exact ih inside matched
  | times body min max greedy ih =>
    obtain ⟨n, -, -, rounds⟩ := matched
    exact rounds.bounds (fun _ _ => ih) inside
  | cat a b iha ihb =>
    obtain ⟨k, first, second⟩ := matched
    obtain ⟨more, inside'⟩ := iha inside first
    obtain ⟨more', inside''⟩ := ihb inside' second
    exact ⟨more.trans more', inside''⟩
  | alt a b iha ihb => exact matched.elim (iha inside) (ihb inside)

def InTurn (subject : List Char) : List Regex → Nat → Nat → Prop
  | [], i, j => i = j
  | r :: rest, i, j => ∃ k, r.Matches subject i k ∧ InTurn subject rest k j

variable {i j : Nat}

theorem inTurn_append {parts more : List Regex} :
    InTurn subject (parts ++ more) i j ↔
      ∃ k, InTurn subject parts i k ∧ InTurn subject more k j := by
  induction parts generalizing i with
  | nil => simp [InTurn]
  | cons r rest ih =>
    simp only [List.cons_append, InTurn, ih]
    constructor
    · rintro ⟨k, first, l, second, third⟩
      exact ⟨l, ⟨k, first, second⟩, third⟩
    · rintro ⟨l, ⟨k, first, second⟩, third⟩
      exact ⟨k, first, l, second, third⟩

theorem inTurn_singleton {r : Regex} : InTurn subject [r] i j ↔ r.Matches subject i j := by
  simp [InTurn]

theorem inTurn_factors {r : Regex} : InTurn subject r.factors i j ↔ r.Matches subject i j := by
  induction r generalizing i with
  | empty => exact Iff.rfl
  | cat a b _ ihb => simp only [factors, InTurn, ihb, Matches]
  | literal | chars | look | capture | times | alt => exact inTurn_singleton

theorem inTurn_flatMap_factors {parts : List Regex} :
    InTurn subject (parts.flatMap factors) i j ↔ InTurn subject parts i j := by
  induction parts generalizing i with
  | nil => exact Iff.rfl
  | cons r rest ih => simp only [List.flatMap_cons, inTurn_append, inTurn_factors, ih, InTurn]

theorem matches_literal_append {text more : List Char} :
    (literal (text ++ more)).Matches subject i j ↔
      ∃ k, (literal text).Matches subject i k ∧ (literal more).Matches subject k j := by
  simp only [Matches, List.length_append]
  constructor
  · rintro ⟨⟨rest, whole⟩, rfl⟩
    refine ⟨i + text.length, ⟨⟨more ++ rest, by rw [← whole, List.append_assoc]⟩, rfl⟩,
      ⟨rest, ?_⟩, by omega⟩
    rw [← List.drop_drop, ← whole, List.append_assoc, List.drop_left]
  · rintro ⟨k, ⟨⟨rest, whole⟩, rfl⟩, ⟨rest', whole'⟩, rfl⟩
    rw [← List.drop_drop, ← whole, List.drop_left] at whole'
    refine ⟨⟨rest', ?_⟩, by omega⟩
    rw [← whole, ← whole', List.append_assoc]

theorem inTurn_joinLiterals {parts : List Regex} :
    InTurn subject (joinLiterals parts) i j ↔ InTurn subject parts i j := by
  induction parts using joinLiterals.induct generalizing i with
  | case1 => exact Iff.rfl
  | case2 text rest more rest' joined ih =>
    rw [joinLiterals, joined]
    have split := @ih
    rw [joined] at split
    simp only [InTurn, matches_literal_append, ← split]
    constructor
    · rintro ⟨l, ⟨k, first, second⟩, third⟩
      exact ⟨k, first, l, second, third⟩
    · rintro ⟨k, first, l, second, third⟩
      exact ⟨l, ⟨k, first, second⟩, third⟩
  | case3 text rest single ih =>
    rw [joinLiterals]
    split
    · next joined => exact (single _ _ joined).elim
    · simp only [InTurn, ih]
  | case4 r rest other ih =>
    rw [joinLiterals]
    · simp only [InTurn, ih]
    · exact other

theorem matches_ofFactors {parts : List Regex} :
    (ofFactors parts).Matches subject i j ↔ InTurn subject parts i j := by
  induction parts using ofFactors.induct generalizing i with
  | case1 => exact Iff.rfl
  | case2 r => exact inTurn_singleton.symm
  | case3 r rest filled ih =>
    rw [ofFactors]
    · simp only [Matches, InTurn, ih]
    · exact filled

theorem matches_sequence {parts : List Regex} :
    (sequence parts).Matches subject i j ↔ InTurn subject parts i j := by
  rw [sequence, matches_ofFactors, inTurn_joinLiterals, inTurn_flatMap_factors]

end Regex

end IfaceMonitor.Pattern
