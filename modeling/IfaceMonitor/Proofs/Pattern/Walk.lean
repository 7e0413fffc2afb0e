import IfaceMonitor.Proofs.Pattern.Matching

/-!
Walks lead where their expressions match. What the loops of a walk have learned is always right
(`Walk.Sound`), each round that teaches them nothing has followed them to the end (`Walk.complete`),
and there are no more things to learn than pairs of a loop and a place, so `Walk.reach` is exact.
Hence the matcher finds what `Regex.Matches` says (`Regex.matchesIn_iff`).
-/

namespace IfaceMonitor.Pattern

namespace Walk

def Leads : Walk → Nat → Nat → Prop
  | stay places, i, j => places.testBit i = true ∧ i = j
  | go places length, i, j => places.testBit i = true ∧ i + length = j
  | both a b, i, j => ∃ k, a.Leads i k ∧ b.Leads k j
  | either a b, i, j => a.Leads i j ∨ b.Leads i j
  | loop body _, i, j => Relation.TransGen body.Leads i j

def image (w : Walk) (starts : Set Nat) : Set Nat :=
  {j | ∃ i ∈ starts, w.Leads i j}

def rounds (w : Walk) (starts : Set Nat) : Set Nat :=
  {j | ∃ i ∈ starts, Relation.ReflTransGen w.Leads i j}

def members (s : Places) : Set Nat :=
  {i | s.testBit i = true}

theorem members_or {s t : Places} : members (s ||| t) = members s ∪ members t := by
  ext i
  simp [members]

theorem members_zero : members 0 = ∅ := by
  ext i
  simp [members]

theorem bne_zero_iff {s : Places} : (s != 0) = true ↔ (members s).Nonempty := by
  rw [bne_iff_ne, Set.nonempty_iff_ne_empty, not_iff_not, ← members_zero]
  refine ⟨congrArg members, fun same => Nat.eq_of_testBit_eq fun i => Bool.eq_iff_iff.2 ?_⟩
  exact Set.ext_iff.1 same i

variable {w : Walk} {s : Places}

theorem leads_both {a b : Walk} {i j : Nat} :
    (both a b).Leads i j ↔ ∃ k, a.Leads i k ∧ b.Leads k j :=
  Iff.rfl

theorem leads_follow (w : Walk) (s : Places) : (w.follow s).2.Leads = w.Leads := by
  induction w generalizing s with
  | stay | go => rfl
  | both a b iha ihb =>
    rw [follow]
    split
    · rfl
    · funext i j
      simp only [Leads, iha, ihb]
  | either a b iha ihb =>
    rw [follow]
    split
    · rfl
    · funext i j
      simp only [Leads, iha, ihb]
  | loop body entered ih =>
    simp only [follow]
    split
    · rfl
    · funext i j
      simp only [Leads, ih]

theorem loops_follow (w : Walk) (s : Places) : (w.follow s).2.loops = w.loops := by
  induction w generalizing s with
  | stay | go => rfl
  | both a b iha ihb | either a b iha ihb =>
    rw [follow]
    split
    · rfl
    · simp only [loops, iha, ihb]
  | loop body entered ih =>
    simp only [follow]
    split
    · rfl
    · simp only [loops, ih]

/-- The loops know only places where their rounds begin, for walks from some of the given places. -/
def Sound : Walk → Set Nat → Prop
  | stay _, _ => True
  | go _ _, _ => True
  | both a b, starts => a.Sound starts ∧ b.Sound (a.image starts)
  | either a b, starts => a.Sound starts ∧ b.Sound starts
  | loop body entered, starts =>
    body.Sound (body.rounds starts) ∧ members entered ⊆ body.rounds starts

theorem subset_rounds (w : Walk) (starts : Set Nat) : starts ⊆ w.rounds starts :=
  fun i member => ⟨i, member, .refl⟩

theorem follow_sound {starts : Set Nat} (sound : w.Sound starts) (started : members s ⊆ starts) :
    (w.follow s).2.Sound starts ∧ members (w.follow s).1 ⊆ w.image starts := by
  induction w generalizing s starts with
  | stay places =>
    refine ⟨trivial, fun j reached => ?_⟩
    obtain ⟨given, here⟩ := Bool.and_eq_true_iff.1 ((Nat.testBit_and ..).symm.trans reached)
    exact ⟨j, started given, here, rfl⟩
  | go places length =>
    refine ⟨trivial, fun j reached => ?_⟩
    simp only [follow, members, Set.mem_ofPred_eq, Nat.testBit_shiftLeft, Nat.testBit_and,
      Bool.and_eq_true, decide_eq_true_eq] at reached
    obtain ⟨behind, given, here⟩ := reached
    exact ⟨j - length, started given, here, Nat.sub_add_cancel behind⟩
  | both a b iha ihb =>
    obtain ⟨first, second⟩ := sound
    rw [follow]
    split
    · exact ⟨⟨first, second⟩, members_zero ▸ Set.empty_subset _⟩
    · obtain ⟨first, middle⟩ := iha first started
      obtain ⟨second, reached⟩ := ihb second middle
      refine ⟨⟨first, ?_⟩, fun j member => ?_⟩
      · rwa [image, leads_follow]
      · obtain ⟨k, ⟨i, given, toK⟩, toJ⟩ := reached member
        exact ⟨i, given, k, toK, toJ⟩
  | either a b iha ihb =>
    obtain ⟨first, second⟩ := sound
    rw [follow]
    split
    · exact ⟨⟨first, second⟩, members_zero ▸ Set.empty_subset _⟩
    · obtain ⟨first, left⟩ := iha first started
      obtain ⟨second, right⟩ := ihb second started
      refine ⟨⟨first, second⟩, ?_⟩
      rw [members_or]
      rintro j (member | member)
      · obtain ⟨i, given, toJ⟩ := left member
        exact ⟨i, given, Or.inl toJ⟩
      · obtain ⟨i, given, toJ⟩ := right member
        exact ⟨i, given, Or.inr toJ⟩
  | loop body entered ih =>
    obtain ⟨inner, known⟩ := sound
    simp only [follow]
    split
    · next nothing =>
        exact ⟨⟨inner, nothing ▸ members_zero ▸ Set.empty_subset _⟩,
          members_zero ▸ Set.empty_subset _⟩
    · have begun : members (entered ||| s) ⊆ body.rounds starts := by
        rw [members_or]
        exact Set.union_subset known (started.trans (body.subset_rounds starts))
      obtain ⟨inner, reached⟩ := ih inner begun
      -- What the loop learns are ends of rounds, and where a round ends the next one begins.
      have ended : members (body.follow (entered ||| s)).1 ⊆
          (loop body entered).image starts := by
        intro j member
        obtain ⟨k, ⟨i, given, toK⟩, toJ⟩ := reached member
        exact ⟨i, given, .tail' toK toJ⟩
      refine ⟨⟨?_, ?_⟩, ended⟩
      · rwa [rounds, leads_follow]
      · rw [rounds, leads_follow, members_or]
        refine Set.union_subset begun fun j member => ?_
        obtain ⟨i, given, chain⟩ := ended member
        exact ⟨i, given, chain.to_reflTransGen⟩

theorem complete (settled : (w.follow s).2 = w) {i j : Nat} (started : i ∈ members s)
    (leads : w.Leads i j) :
    j ∈ members (w.follow s).1 := by
  induction w generalizing s i j with
  | stay places =>
    obtain ⟨here, rfl⟩ := leads
    exact (Nat.testBit_and ..).trans (Bool.and_eq_true_iff.2 ⟨started, here⟩)
  | go places length =>
    obtain ⟨here, rfl⟩ := leads
    simp only [members, Set.mem_ofPred_eq] at started
    simp [follow, members, started, here]
  | both a b iha ihb =>
    obtain ⟨k, first, second⟩ := leads
    rw [follow] at settled ⊢
    split
    · next nothing =>
      rw [nothing, members_zero] at started
      cases started
    · next some =>
      rw [if_neg some] at settled
      injection settled with settled settled'
      exact ihb settled' (iha settled started first) second
  | either a b iha ihb =>
    rw [follow] at settled ⊢
    split
    · next nothing =>
      rw [nothing, members_zero] at started
      cases started
    · next some =>
      rw [if_neg some] at settled
      injection settled with settled settled'
      rw [members_or]
      exact leads.imp (iha settled started) (ihb settled' started)
  | loop body entered ih =>
    simp only [follow] at settled ⊢
    split
    · next nothing =>
      have member : i ∈ members (entered ||| s) := members_or ▸ Or.inr started
      rw [nothing, members_zero] at member
      cases member
    · next some =>
      rw [if_neg some] at settled
      injection settled with settled known
      have begun : i ∈ members (entered ||| s) := members_or ▸ Or.inr started
      -- The loop has learned nothing, so it knows every place where a round of it ends.
      have again : members (body.follow (entered ||| s)).1 ⊆ members (entered ||| s) := by
        have whole := congrArg members known
        rw [members_or] at whole
        rw [members_or]
        exact (Set.subset_union_right.trans whole.subset).trans Set.subset_union_left
      induction leads with
      | single taken => exact ih settled begun taken
      | tail _ taken before => exact ih settled (again before) taken

def Fresh (places : Nat) : Walk → Prop
  | stay _ => True
  | go here length => ∀ i ∈ members here, i + length < places
  | both a b => a.Fresh places ∧ b.Fresh places
  | either a b => a.Fresh places ∧ b.Fresh places
  | loop body entered => body.Fresh places ∧ entered = 0

def Within (places : Nat) : Walk → Prop
  | stay _ => True
  | go here length => ∀ i ∈ members here, i + length < places
  | both a b => a.Within places ∧ b.Within places
  | either a b => a.Within places ∧ b.Within places
  | loop body entered => body.Within places ∧ members entered ⊆ Set.Iio places

variable {places : Nat}

theorem Fresh.within (fresh : w.Fresh places) : w.Within places := by
  induction w with
  | stay | go => exact fresh
  | both a b iha ihb | either a b iha ihb => exact ⟨iha fresh.1, ihb fresh.2⟩
  | loop body entered ih =>
    obtain ⟨fresh, rfl⟩ := fresh
    exact ⟨ih fresh, members_zero ▸ Set.empty_subset _⟩

theorem Fresh.sound (fresh : w.Fresh places) (starts : Set Nat) : w.Sound starts := by
  induction w generalizing starts with
  | stay | go => trivial
  | both a b iha ihb | either a b iha ihb => exact ⟨iha fresh.1 _, ihb fresh.2 _⟩
  | loop body entered ih =>
    obtain ⟨fresh, rfl⟩ := fresh
    exact ⟨ih fresh _, members_zero ▸ Set.empty_subset _⟩

theorem follow_within (within : w.Within places) (inside : members s ⊆ Set.Iio places) :
    (w.follow s).2.Within places ∧ members (w.follow s).1 ⊆ Set.Iio places := by
  induction w generalizing s with
  | stay here =>
    refine ⟨trivial, fun j reached => inside ?_⟩
    exact (Bool.and_eq_true_iff.1 ((Nat.testBit_and ..).symm.trans reached)).1
  | go here length =>
    refine ⟨within, fun j reached => ?_⟩
    simp only [follow, members, Set.mem_ofPred_eq, Nat.testBit_shiftLeft, Nat.testBit_and,
      Bool.and_eq_true, decide_eq_true_eq] at reached
    obtain ⟨behind, -, possible⟩ := reached
    have bound := within (j - length) possible
    rwa [Nat.sub_add_cancel behind] at bound
  | both a b iha ihb =>
    rw [follow]
    split
    · exact ⟨within, members_zero ▸ Set.empty_subset _⟩
    · obtain ⟨first, middle⟩ := iha within.1 inside
      obtain ⟨second, reached⟩ := ihb within.2 middle
      exact ⟨⟨first, second⟩, reached⟩
  | either a b iha ihb =>
    rw [follow]
    split
    · exact ⟨within, members_zero ▸ Set.empty_subset _⟩
    · obtain ⟨first, left⟩ := iha within.1 inside
      obtain ⟨second, right⟩ := ihb within.2 inside
      exact ⟨⟨first, second⟩, members_or ▸ Set.union_subset left right⟩
  | loop body entered ih =>
    obtain ⟨inner, known⟩ := within
    simp only [follow]
    split
    · next nothing =>
        exact ⟨⟨inner, nothing ▸ members_zero ▸ Set.empty_subset _⟩,
          members_zero ▸ Set.empty_subset _⟩
    · have begun : members (entered ||| s) ⊆ Set.Iio places :=
        members_or ▸ Set.union_subset known inside
      obtain ⟨inner, reached⟩ := ih inner begun
      exact ⟨⟨inner, members_or ▸ Set.union_subset begun reached⟩, reached⟩

def listed (places : Nat) (s : Places) : Finset Nat :=
  (Finset.range places).filter fun i => s.testBit i

theorem listed_subset (places : Nat) {t : Places} (more : members s ⊆ members t) :
    listed places s ⊆ listed places t :=
  fun _ member =>
    Finset.mem_filter.2 ((Finset.mem_filter.1 member).imp_right fun given => more given)

theorem eq_of_card_listed {t : Places} (more : members s ⊆ members t)
    (inside : members t ⊆ Set.Iio places)
    (same : (listed places t).card ≤ (listed places s).card) : t = s := by
  have whole := Finset.eq_of_subset_of_card_le (listed_subset places more) same
  refine Nat.eq_of_testBit_eq fun i =>
    Bool.eq_iff_iff.2 ⟨fun member => ?_, fun member => more member⟩
  have given : i ∈ listed places t :=
    Finset.mem_filter.2 ⟨Finset.mem_range.2 (inside member), member⟩
  rw [← whole] at given
  exact (Finset.mem_filter.1 given).2

def known (places : Nat) : Walk → Nat
  | stay _ => 0
  | go _ _ => 0
  | both a b => a.known places + b.known places
  | either a b => a.known places + b.known places
  | loop body entered => body.known places + (listed places entered).card

theorem known_le (w : Walk) (places : Nat) : w.known places ≤ places * w.loops := by
  induction w with
  | stay | go => exact Nat.zero_le _
  | both a b iha ihb | either a b iha ihb =>
    rw [known, loops, Nat.mul_add]
    exact Nat.add_le_add iha ihb
  | loop body entered ih =>
    rw [known, loops, Nat.mul_succ]
    refine Nat.add_le_add ih ((Finset.card_filter_le _ _).trans ?_)
    rw [Finset.card_range]

theorem follow_known (within : w.Within places) (inside : members s ⊆ Set.Iio places) :
    w.known places ≤ (w.follow s).2.known places ∧
      ((w.follow s).2.known places ≤ w.known places → (w.follow s).2 = w) := by
  induction w generalizing s with
  | stay | go => exact ⟨le_rfl, fun _ => rfl⟩
  | both a b iha ihb =>
    rw [follow]
    split
    · exact ⟨le_rfl, fun _ => rfl⟩
    · obtain ⟨first, same⟩ := iha within.1 inside
      obtain ⟨second, same'⟩ := ihb within.2 (follow_within within.1 inside).2
      simp only [known]
      refine ⟨Nat.add_le_add first second, fun less => ?_⟩
      rw [same (by omega), same' (by omega)]
  | either a b iha ihb =>
    rw [follow]
    split
    · exact ⟨le_rfl, fun _ => rfl⟩
    · obtain ⟨first, same⟩ := iha within.1 inside
      obtain ⟨second, same'⟩ := ihb within.2 inside
      simp only [known]
      refine ⟨Nat.add_le_add first second, fun less => ?_⟩
      rw [same (by omega), same' (by omega)]
  | loop body entered ih =>
    simp only [follow]
    split
    · next nothing =>
      have none : entered = 0 := (Nat.or_eq_zero_iff.1 nothing).1
      rw [nothing, none]
      exact ⟨le_rfl, fun _ => rfl⟩
    · have begun : members (entered ||| s) ⊆ Set.Iio places :=
        members_or ▸ Set.union_subset within.2 inside
      obtain ⟨inner, same⟩ := ih within.1 begun
      obtain ⟨-, reached⟩ := follow_within within.1 begun
      -- No place is forgotten, so as many places as before are the same places.
      have more : members entered ⊆
          members (entered ||| s ||| (body.follow (entered ||| s)).1) := by
        rw [members_or, members_or]
        exact Set.subset_union_left.trans Set.subset_union_left
      have all : members (entered ||| s ||| (body.follow (entered ||| s)).1) ⊆ Set.Iio places :=
        members_or ▸ Set.union_subset begun reached
      have grown := Finset.card_le_card (listed_subset places more)
      simp only [known]
      refine ⟨Nat.add_le_add inner grown, fun less => ?_⟩
      rw [same (by omega), eq_of_card_listed more all (by omega)]

theorem members_settle {n : Nat} {starts : Places} (sound : w.Sound (members starts))
    (within : w.Within places) (inside : members starts ⊆ Set.Iio places)
    (enough : places * w.loops ≤ w.known places + n) :
    members (settle n w starts) = w.image (members starts) := by
  induction n generalizing w with
  | zero =>
    obtain ⟨next, reached⟩ := follow_sound sound subset_rfl
    refine reached.antisymm ?_
    rintro j ⟨i, given, leads⟩
    refine complete ((follow_known within inside).2 ?_) given leads
    calc (w.follow starts).2.known places ≤ places * (w.follow starts).2.loops := known_le _ _
      _ = places * w.loops := by rw [loops_follow]
      _ ≤ w.known places := enough
  | succ n ih =>
    obtain ⟨next, reached⟩ := follow_sound sound subset_rfl
    simp only [settle]
    split
    · next settled =>
      refine reached.antisymm ?_
      rintro j ⟨i, given, leads⟩
      exact complete settled given leads
    · next learned =>
      obtain ⟨-, same⟩ := follow_known within inside
      have more : w.known places < (w.follow starts).2.known places := Nat.lt_of_not_le fun less =>
        learned (same less)
      rw [ih next (follow_within within inside).1 (by rw [loops_follow]; omega), image,
        leads_follow, image]

theorem members_reach (fresh : w.Fresh places) (inside : members s ⊆ Set.Iio places) :
    members (w.reach places s) = w.image (members s) :=
  members_settle (fresh.sound _) fresh.within inside (Nat.le_add_left_of_le (Nat.le_succ _))

section Times
variable {here : Places} {n : Nat}

theorem leads_times (started : ∀ i j, w.Leads i j → here.testBit i = true) {i j : Nat} :
    (w.times here n).Leads i j ↔ here.testBit i = true ∧ Rounds w.Leads n i j := by
  induction n using times.induct generalizing i with
  | case1 => exact Iff.rfl
  | case2 =>
    exact ⟨fun leads => ⟨started i j leads, Rounds.one.2 leads⟩, fun ⟨_, chain⟩ =>
      Rounds.one.1 chain⟩
  | case3 n more ih =>
    rw [times]
    · simp only [Leads, ih, Rounds]
      constructor
      · rintro ⟨k, taken, -, rest⟩
        exact ⟨started i k taken, k, taken, rest⟩
      · rintro ⟨-, k, taken, rest⟩
        refine ⟨k, taken, ?_, rest⟩
        cases n with
        | zero => exact absurd rfl more
        | succ n =>
          obtain ⟨l, next, -⟩ := rest
          exact started k l next
    · exact more

theorem leads_unbounded (started : ∀ i j, w.Leads i j → here.testBit i = true) (least : Nat)
    {i j : Nat} :
    (if least = 0 then either (stay here) (loop w 0)
      else both (w.times here (least - 1)) (loop w 0)).Leads i j ↔
      here.testBit i = true ∧ ∃ n, least ≤ n ∧ Rounds w.Leads n i j := by
  have start {n i : Nat} (chain : Rounds w.Leads (n + 1) i j) : here.testBit i = true := by
    obtain ⟨k, taken, -⟩ := chain
    exact started i k taken
  split
  · next zero =>
    subst zero
    simp only [Leads, Rounds.transGen_iff]
    constructor
    · rintro (⟨given, same⟩ | ⟨n, chain⟩)
      · exact ⟨given, 0, le_rfl, same⟩
      · exact ⟨start chain, n + 1, Nat.zero_le _, chain⟩
    · rintro ⟨given, n, -, chain⟩
      cases n with
      | zero => exact Or.inl ⟨given, chain⟩
      | succ n => exact Or.inr ⟨n, chain⟩
  · next positive =>
    obtain ⟨less, rfl⟩ := Nat.exists_eq_succ_of_ne_zero positive
    simp only [Leads, leads_times started, Rounds.transGen_iff, Nat.succ_eq_add_one,
      Nat.add_sub_cancel]
    constructor
    · rintro ⟨k, ⟨given, first⟩, n, second⟩
      exact ⟨given, less + (n + 1), by omega, first.append second⟩
    · rintro ⟨given, n, enough, chain⟩
      obtain ⟨more, rfl⟩ := Nat.exists_eq_add_of_le enough
      rw [Nat.add_right_comm, Nat.add_assoc] at chain
      obtain ⟨k, first, second⟩ := Rounds.add_iff.1 chain
      exact ⟨k, ⟨given, first⟩, more, second⟩

theorem leads_optional
    (kept : ∀ i j, here.testBit i = true → w.Leads i j → here.testBit j = true) {i j : Nat}
    (given : here.testBit i = true) :
    Rounds (either (stay here) w).Leads n i j ↔ ∃ m ≤ n, Rounds w.Leads m i j := by
  refine Iff.trans (Rounds.congr (p := fun i => here.testBit i = true) (fun i j given => ?_)
    (fun i j given leads => ?_) given)
    Rounds.optional_iff
  · simp only [Leads, given, true_and]
  · rcases leads with ⟨-, rfl⟩ | leads
    · exact given
    · exact kept i j given leads

theorem leads_bounded (started : ∀ i j, w.Leads i j → here.testBit i = true)
    (kept : ∀ i j, here.testBit i = true → w.Leads i j → here.testBit j = true)
    (least more : Nat) {i j : Nat} :
    (both (w.times here least) ((either (stay here) w).times here more)).Leads i j ↔
      here.testBit i = true ∧ ∃ m ≤ more, Rounds w.Leads (least + m) i j := by
  have started' (i j : Nat) (leads : (either (stay here) w).Leads i j) : here.testBit i = true :=
    leads.elim And.left (started i j)
  have arrived {n i k : Nat} (given : here.testBit i = true) (chain : Rounds w.Leads n i k) :
      here.testBit k = true := by
    induction n generalizing i with
    | zero => exact chain ▸ given
    | succ n ih =>
      obtain ⟨l, taken, chain⟩ := chain
      exact ih (kept i l given taken) chain
  simp only [leads_both, leads_times started, leads_times started']
  constructor
  · rintro ⟨k, ⟨given, first⟩, given', second⟩
    obtain ⟨m, few, second⟩ := (leads_optional kept given').1 second
    exact ⟨given, m, few, first.append second⟩
  · rintro ⟨given, m, few, chain⟩
    obtain ⟨k, first, second⟩ := Rounds.add_iff.1 chain
    exact ⟨k, ⟨given, first⟩, arrived given first,
      (leads_optional kept (arrived given first)).2 ⟨m, few, second⟩⟩

theorem fresh_times (fresh : w.Fresh places) : (w.times here n).Fresh places := by
  induction n using times.induct with
  | case1 => trivial
  | case2 => exact fresh
  | case3 n more ih =>
    rw [times]
    · exact ⟨fresh, ih⟩
    · exact more

end Times

end Walk

namespace Regex
open Walk
variable {subject : List Char}

theorem testBit_here {i : Nat} :
    (walk.here (Cursor.all subject)).testBit i = true ↔ i ≤ subject.length := by
  simp [walk.here, Places.testBit_iff]

theorem leads_walk (r : Regex) {i j : Nat} :
    (r.walk (Cursor.all subject)).Leads i j ↔ i ≤ subject.length ∧ r.Matches subject i j := by
  induction r generalizing i j with
  | empty => simp only [walk, Leads, testBit_here, Matches]
  | literal text =>
    simp only [walk, Leads, Places.testBit_iff, Matches, Cursor.behind,
      List.isPrefixOf_iff_prefix, and_assoc]
  | chars set =>
    simp only [walk, Leads, Places.testBit_iff, Matches, Cursor.behind, List.head?_drop,
      Option.any_eq_true, and_assoc]
  | look condition => simp only [walk, Leads, Places.testBit_iff, Matches, and_assoc]
  | capture index body ih => exact ih
  | cat a b iha ihb =>
    simp only [walk, Leads, iha, ihb, Matches]
    constructor
    · rintro ⟨k, ⟨inside, first⟩, -, second⟩
      exact ⟨inside, k, first, second⟩
    · rintro ⟨inside, k, first, second⟩
      exact ⟨k, ⟨inside, first⟩, (first.forward inside).2, second⟩
  | alt a b iha ihb => simp only [walk, Leads, iha, ihb, Matches, and_or_left]
  | times body min max greedy ih =>
    have started (i j : Nat) (leads : (body.walk (Cursor.all subject)).Leads i j) :
        (walk.here (Cursor.all subject)).testBit i = true := testBit_here.2 (ih.1 leads).1
    have kept (i j : Nat) (_ : (walk.here (Cursor.all subject)).testBit i = true)
        (leads : (body.walk (Cursor.all subject)).Leads i j) :
        (walk.here (Cursor.all subject)).testBit j = true := by
      obtain ⟨inside, matched⟩ := ih.1 leads
      exact testBit_here.2 (matched.forward inside).2
    have forward (i j : Nat) (inside : i ≤ subject.length) (matched : body.Matches subject i j) :=
      matched.forward inside
    -- Rounds stay inside the subject, and there the body leads where it matches.
    have rounds {n : Nat} (inside : i ≤ subject.length) :
        Rounds (body.walk (Cursor.all subject)).Leads n i j ↔
            Rounds (body.Matches subject) n i j :=
      Rounds.congr (fun i j inside => ih.trans (and_iff_right inside))
        (fun i j inside leads => (forward i j inside (ih.1 leads).2).2) inside
    simp only [walk, Cursor.length_all]
    cases max with
    | none =>
      rw [leads_unbounded started, testBit_here]
      refine and_congr_right fun inside => ?_
      simp only [rounds inside, Rounds.least_iff forward inside, Matches]
      simp
    | some max =>
      rw [leads_bounded started kept, testBit_here]
      refine and_congr_right fun inside => ?_
      simp only [rounds inside, Rounds.between_iff forward inside, Matches]
      simp

theorem fresh_walk (r : Regex) : (r.walk (Cursor.all subject)).Fresh (subject.length + 1) := by
  have bounded {r : Regex} {i j : Nat} (leads : (r.walk (Cursor.all subject)).Leads i j) :
      j < subject.length + 1 := by
    obtain ⟨inside, matched⟩ := r.leads_walk.1 leads
    exact Nat.lt_succ_of_le (matched.forward inside).2
  induction r with
  | empty | look => trivial
  | literal text => exact fun i member => bounded (r := literal text) ⟨member, rfl⟩
  | chars set => exact fun i member => bounded (r := chars set) ⟨member, rfl⟩
  | capture index body ih => exact ih
  | cat a b iha ihb | alt a b iha ihb => exact ⟨iha, ihb⟩
  | times body min max greedy ih =>
    simp only [walk]
    cases max with
    | none =>
      dsimp only
      split
      · exact ⟨trivial, ih, rfl⟩
      · exact ⟨fresh_times ih, ih, rfl⟩
    | some max =>
      have optional :
          ((stay (walk.here (Cursor.all subject))).either
            (body.walk (Cursor.all subject))).Fresh (subject.length + 1) :=
        ⟨trivial, ih⟩
      exact ⟨fresh_times ih, fresh_times optional⟩

theorem matchesIn_iff (r : Regex) (subject : List Char) :
    r.matchesIn subject = true ↔ ∃ i j, i ≤ subject.length ∧ r.Matches subject i j := by
  have everywhere : members (Places.filter (fun _ => true) (Cursor.all subject)) =
      Set.Iio (subject.length + 1) := by
    ext i
    exact testBit_here.trans Nat.lt_succ_iff.symm
  have reached :=
    members_reach (s := Places.filter (fun _ => true) (Cursor.all subject)) r.fresh_walk
      everywhere.subset
  rw [← Cursor.length_all] at reached
  rw [matchesIn, bne_zero_iff, ends, reached, everywhere]
  constructor
  · rintro ⟨j, i, -, leads⟩
    exact ⟨i, j, r.leads_walk.1 leads⟩
  · rintro ⟨i, j, inside, matched⟩
    exact ⟨j, i, Nat.lt_succ_of_le inside, r.leads_walk.2 ⟨inside, matched⟩⟩

end Regex

end IfaceMonitor.Pattern
