import Mathlib

namespace IfaceMonitor

namespace Comparison
open Float.Model

/-- Below, at or above zero, then the exponent, then the significand. Comparisons never ask for the
rank of NaN. -/
def rank : UnpackedFloat → ℤ ×ₗ ℤ ×ₗ ℤ
  | .infinity .negative => toLex (-2, toLex (0, 0))
  | .finite .negative mantissa exponent _ => toLex (-1, toLex (-exponent, -(mantissa : ℤ)))
  | .zero _ => toLex (0, toLex (0, 0))
  | .finite .positive mantissa exponent _ => toLex (1, toLex (exponent, (mantissa : ℤ)))
  | .infinity .positive => toLex (2, toLex (0, 0))
  | .notANumber => toLex (0, toLex (0, 0))

theorem cmp_significands (k e f m n : ℤ) :
    cmp (toLex (k, toLex (e, m))) (toLex (k, toLex (f, n))) = (compare e f).then (compare m n) := by
  refine Ordering.Compares.cmp_eq ?_
  rcases lt_trichotomy e f with less | rfl | greater
  · simp [compare_lt_iff_lt.2 less, Ordering.Compares, Prod.Lex.toLex_lt_toLex, less]
  · rcases lt_trichotomy m n with less | rfl | greater
    · simp [compare_lt_iff_lt.2 less, Ordering.Compares, Prod.Lex.toLex_lt_toLex, less]
    · simp [Ordering.Compares]
    · simp [compare_gt_iff_gt.2 greater, Ordering.Compares, Prod.Lex.toLex_lt_toLex, greater]
  · simp [compare_gt_iff_gt.2 greater, Ordering.Compares, Prod.Lex.toLex_lt_toLex, greater]

theorem compare_neg (a b : ℤ) : compare (-a) (-b) = (compare a b).swap := by
  rcases lt_trichotomy a b with less | rfl | greater
  · rw [compare_lt_iff_lt.2 less, compare_gt_iff_gt.2 (neg_lt_neg less)]
    rfl
  · simp
  · rw [compare_gt_iff_gt.2 greater, compare_lt_iff_lt.2 (neg_lt_neg greater)]
    rfl

theorem compare_natCast (m n : ℕ) : compare (m : ℤ) n = compare m n := by
  rw [← cmp_eq_compare, ← cmp_eq_compare]
  exact Nat.strictMono_cast.cmp_map_eq m n

variable {x y : UnpackedFloat}

theorem compare_eq_cmp_rank (hx : x.isNaN = false) (hy : y.isNaN = false) :
    x.compare y = some (cmp (rank x) (rank y)) := by
  have signs : compare UnpackedFloat.Sign.negative .positive = .lt := rfl
  have signs' : compare UnpackedFloat.Sign.positive .negative = .gt := rfl
  have same (s : UnpackedFloat.Sign) : compare s s = .eq := by cases s <;> rfl
  have below {k l : ℤ} (p q : ℤ ×ₗ ℤ) (less : k < l) :
      cmp (toLex (k, p)) (toLex (l, q)) = .lt := by
    rw [cmp_eq_lt_iff, Prod.Lex.toLex_lt_toLex]
    exact Or.inl less
  have above {k l : ℤ} (p q : ℤ ×ₗ ℤ) (greater : l < k) :
      cmp (toLex (k, p)) (toLex (l, q)) = .gt := by
    rw [cmp_eq_gt_iff, Prod.Lex.toLex_lt_toLex]
    exact Or.inl greater
  -- Only two finite numbers of one sign are left to their exponents and significands.
  rcases x with (_ | _) | _ | _ | ⟨_ | _, m, e, _⟩ <;>
    rcases y with (_ | _) | _ | _ | ⟨_ | _, n, f, _⟩ <;>
    first
      | cases hx; done
      | cases hy; done
      | simp [UnpackedFloat.compare, rank, below, above, cmp_significands, compare_neg,
        compare_natCast, signs, signs', same, Ordering.swap_then]

theorem compare_eq_some_iff {o : Ordering} :
    x.compare y = some o ↔ x.isNaN = false ∧ y.isNaN = false ∧ cmp (rank x) (rank y) = o := by
  cases hx : x.isNaN with
  | true =>
    cases x <;> cases hx
    simp [UnpackedFloat.compare]
  | false =>
    cases hy : y.isNaN with
    | true =>
      cases y <;> cases hy
      cases x <;> simp [UnpackedFloat.compare]
    | false => simp [compare_eq_cmp_rank hx hy]

theorem lt_iff_rank {a b : Float} :
    a < b ↔ a.isNaN = false ∧ b.isNaN = false ∧
      rank a.toModel.unpack < rank b.toModel.unpack := by
  change a.lt b = true ↔ _
  rw [Float.lt, decide_eq_true_iff, ← cmp_eq_lt_iff]
  exact beq_iff_eq.trans compare_eq_some_iff

theorem le_iff_rank {a b : Float} :
    a ≤ b ↔ a.isNaN = false ∧ b.isNaN = false ∧
      rank a.toModel.unpack ≤ rank b.toModel.unpack := by
  change a.le b = true ↔ _
  rw [Float.le, decide_eq_true_iff]
  refine (Option.any_eq_true _ _).trans ?_
  simp only [compare_eq_some_iff, and_assoc, exists_and_left, exists_eq_left']
  refine and_congr_right fun _ => and_congr_right fun _ => ?_
  rw [← not_lt, ← cmp_eq_gt_iff]
  cases cmp (rank a.toModel.unpack) (rank b.toModel.unpack) <;> decide

theorem beq_iff_rank {a b : Float} :
    (a == b) = true ↔
      a.isNaN = false ∧ b.isNaN = false ∧ rank a.toModel.unpack = rank b.toModel.unpack := by
  have compared : (a.toModel.unpack.compare b.toModel.unpack == some .eq) = true ↔ _ :=
    beq_iff_eq.trans compare_eq_some_iff
  rwa [cmp_eq_eq_iff] at compared

variable {a b c : Float}

theorem lt_asymm (h : a < b) : ¬b < a := by
  obtain ⟨-, -, apart⟩ := lt_iff_rank.1 h
  exact fun back => apart.asymm (lt_iff_rank.1 back).2.2

theorem lt_of_not_lt_of_lt (number : a.isNaN = false) (within : ¬b < a) (below : b < c) :
    a < c := by
  obtain ⟨hb, hc, apart⟩ := lt_iff_rank.1 below
  rw [lt_iff_rank] at within ⊢
  have reached : rank a.toModel.unpack ≤ rank b.toModel.unpack := not_lt.1 fun h =>
    within ⟨hb, number, h⟩
  exact ⟨number, hc, reached.trans_lt apart⟩

theorem not_le_of_lt (h : a < b) : ¬b ≤ a := by
  obtain ⟨-, -, apart⟩ := lt_iff_rank.1 h
  exact fun back => apart.not_ge (le_iff_rank.1 back).2.2

theorem le_refl_of_isFinite (finite : a.isFinite = true) : a ≤ a := by
  have number : a.isNaN = false := by
    change a.toModel.unpack.isFinite = true at finite
    change a.toModel.unpack.isNaN = false
    cases unpacked : a.toModel.unpack with
    | notANumber =>
      rw [unpacked] at finite
      cases finite
    | zero | infinity | finite => rfl
  exact le_iff_rank.2 ⟨number, number, le_rfl⟩

theorem le_of_lt_of_le (h : a < b) (h' : b ≤ c) : a ≤ c := by
  obtain ⟨ha, -, apart⟩ := lt_iff_rank.1 h
  obtain ⟨-, hc, within⟩ := le_iff_rank.1 h'
  exact le_iff_rank.2 ⟨ha, hc, apart.le.trans within⟩

theorem lt_iff_le_and_not_beq : a < b ↔ a ≤ b ∧ (a == b) = false := by
  rw [Bool.eq_false_iff, ne_eq, beq_iff_rank, lt_iff_rank, le_iff_rank, lt_iff_le_and_ne]
  tauto

theorem beq_iff_le_and_le : (a == b) = true ↔ a ≤ b ∧ b ≤ a := by
  simp only [beq_iff_rank, le_iff_rank]
  constructor
  · rintro ⟨ha, hb, same⟩
    exact ⟨⟨ha, hb, same.le⟩, hb, ha, same.ge⟩
  · rintro ⟨⟨ha, hb, within⟩, -, -, back⟩
    exact ⟨ha, hb, within.antisymm back⟩

end Comparison

end IfaceMonitor
