import IfaceMonitor.Proofs.Decimal.Nearest

/-!
The arithmetic of doubles of at least zero. Each stands for a number or for infinity (`Magnitude`),
in the order of doubles (`Magnitude.le_iff`). Sums, products and quotients stand for the rounded
ones of these numbers (`Rounds`), whatever the bits are.
-/

namespace IfaceMonitor.Rounding
open Float.Model Float.Model.UnpackedFloat

theorem extractLsb_sign (s : BitVec 1) (e : BitVec 11) (m : BitVec 52) :
    (s ++ e ++ m).extractLsb 63 63 = s := by
  apply BitVec.eq_of_getLsbD_eq
  intro i hi
  obtain rfl : i = 0 := by omega
  simp only [BitVec.getLsbD_extractLsb, BitVec.getLsbD_append]
  rfl

theorem sign_packComponents (s : Sign) (e : BitVec 11) (m : BitVec 52) :
    Sign.ofBitVec (unpackSign (packComponents Format.binary64 s e m)) = s := by
  rw [show unpackSign (packComponents Format.binary64 s e m) =
    s.toBitVec from extractLsb_sign s.toBitVec e m]
  cases s <;> rfl

theorem toNat_leading_one {m : ℕ} (full : 2 ^ 52 ≤ m) (fits : m < 2 ^ 53) :
    (1#1 ++ BitVec.ofNat 52 m).toNat = m := by
  have low : m % 2 ^ 52 < 2 ^ 52 := Nat.mod_lt _ (Nat.two_pow_pos 52)
  rw [BitVec.toNat_append, BitVec.toNat_ofNat, BitVec.toNat_ofNat,
    ← Nat.shiftLeft_add_eq_or_of_lt low]
  omega

theorem ofNat_ne {n k : ℕ} (small : n < 2048) (other : n ≠ k % 2048) :
    BitVec.ofNat 11 n ≠ BitVec.ofNat 11 k := by
  intro same
  have values := congrArg BitVec.toNat same
  rw [BitVec.toNat_ofNat, BitVec.toNat_ofNat] at values
  omega

theorem pack_finite (s : Sign) {m : ℕ} {e : ℤ} (positive : 0 < m) :
    UnpackedFloat.pack Format.binary64 (.finite s m e positive) =
      if 971 < e then packedInfinity Format.binary64 s
      else packComponents Format.binary64 s
        (if m.log2 = 52 then BitVec.ofNat 11 (e + 1075).toNat else 0#11)
        (BitVec.ofNat 52 m) := by
  simp only [UnpackedFloat.pack, Format.exponentBias, Format.mantissaBits]
  norm_num
  rw [show e + 1023 + 52 = e + 1075 by ring]
  have large : 2048 ≤ (e + 1075).toNat + 1 ↔ 971 < e := by omega
  simp only [large]
  by_cases big : 971 < e
  · rw [if_pos big, if_pos big]
  · rw [if_neg big, if_neg big]
    by_cases digits : m.log2 = 52
    · rw [if_pos digits, if_pos (by omega)]
    · rw [if_neg digits, if_neg (by omega)]

def stored (u : UnpackedFloat) : UnpackedFloat :=
  UnpackedFloat.unpack Format.binary64 (UnpackedFloat.pack Format.binary64 u)

theorem stored_zero (s : Sign) : stored (.zero s) = .zero s := by
  cases s <;> rfl

theorem stored_infinity (s : Sign) : stored (.infinity s) = .infinity s := by
  cases s <;> rfl

theorem stored_finite (s : Sign) {m : ℕ} {e : ℤ} (positive : 0 < m) (canonical : Canonical m e)
    (largest : e ≤ 971) :
    stored (.finite s m e positive) = .finite s m e positive := by
  obtain ⟨fits, least, full⟩ := canonical
  rw [stored, pack_finite, if_neg (not_lt.2 largest), UnpackedFloat.unpack]
  by_cases normal : 2 ^ 52 ≤ m
  · have digits : m.log2 = 52 := (Nat.log2_eq_iff positive.ne').2 ⟨normal, fits⟩
    have nonzero : BitVec.ofNat 11 (e + 1075).toNat ≠ 0#11 := ofNat_ne (by omega) (by omega)
    have bounded : BitVec.ofNat 11 (e + 1075).toNat ≠ -1#11 :=
      ofNat_ne (k := 2047) (by omega) (by omega)
    have exponent : (((BitVec.ofNat 11 (e + 1075).toNat).toNat : ℕ) : ℤ) - 1075 = e := by
      rw [BitVec.toNat_ofNat]
      omega
    simp only [if_pos digits, unpackExponent_packComponents, unpackMantissa_packComponents,
      sign_packComponents, if_neg nonzero, if_neg bounded, toNat_leading_one normal fits]
    exact congrArg (UnpackedFloat.finite s m · positive) exponent
  · obtain rfl : e = -1074 := full.resolve_right normal
    have digits : m.log2 ≠ 52 := fun digits => normal ((Nat.log2_eq_iff positive.ne').1 digits).1
    have kept : (BitVec.ofNat 52 m).toNat = m := Nat.mod_eq_of_lt (not_le.1 normal)
    have nonzero : BitVec.ofNat 52 m ≠ 0#52 := by
      intro zero
      rw [zero] at kept
      exact positive.ne kept
    simp only [if_neg digits, unpackExponent_packComponents, unpackMantissa_packComponents,
      sign_packComponents, kept, dif_neg nonzero]
    rfl

theorem stored_overflow (s : Sign) {m : ℕ} {e : ℤ} (positive : 0 < m) (large : 971 < e) :
    stored (.finite s m e positive) = .infinity s := by
  rw [stored, pack_finite, if_pos large]
  cases s <;> rfl

theorem canonical_of_unpack {b : BitVec Format.binary64.numBits} {s : Sign} {m : ℕ} {e : ℤ}
    {positive : 0 < m} (h : UnpackedFloat.unpack Format.binary64 b = .finite s m e positive) :
    Canonical m e ∧ e ≤ 971 := by
  have significand : (unpackMantissa b).toNat < 2 ^ 52 := (unpackMantissa b).isLt
  have biased : (unpackExponent b).toNat < 2048 := (unpackExponent b).isLt
  rw [UnpackedFloat.unpack] at h
  dsimp only at h
  split at h
  · split at h <;> cases h
  · next unbounded =>
    split at h
    · next subnormal =>
      split at h
      · cases h
      · cases h
        rw [subnormal]
        exact ⟨⟨significand.trans (by norm_num), le_rfl, Or.inl rfl⟩, by decide⟩
    · next normal =>
      cases h
      have positive : (unpackExponent b).toNat ≠ 0 := fun zero =>
        normal (BitVec.eq_of_toNat_eq zero)
      have finite : (unpackExponent b).toNat ≠ 2047 := fun full =>
        unbounded (BitVec.eq_of_toNat_eq full)
      have leading : (1#1 ++ unpackMantissa b).toNat = 2 ^ 52 + (unpackMantissa b).toNat := by
        rw [BitVec.toNat_append, ← Nat.shiftLeft_add_eq_or_of_lt significand]
        rfl
      have exponent : ((unpackExponent b).toNat : ℤ) -
          (Format.binary64.exponentBias + (52 : ℕ)) =
            (unpackExponent b).toNat - 1075 := rfl
      rw [Canonical, leading, exponent]
      omega

/-- A double of at least zero and the number that it stands for. -/
inductive Magnitude : UnpackedFloat → WithTop ℚ → Prop
  | zero (s : Sign) : Magnitude (.zero s) 0
  | finite {m : ℕ} {e : ℤ} (positive : 0 < m) (canonical : Canonical m e)
      (largest : e ≤ 971) :
    Magnitude (.finite .positive m e positive) ((m * 2 ^ e : ℚ) : WithTop ℚ)
  | infinity : Magnitude (.infinity .positive) ⊤

theorem Magnitude.number_of_isFinite {u : UnpackedFloat} {x : WithTop ℚ} (h : Magnitude u x)
    (finite : u.isFinite = true) :
    ∃ q : ℚ, x = q := by
  cases h with
  | zero s => exact ⟨0, rfl⟩
  | finite => exact ⟨_, rfl⟩
  | infinity => cases finite

theorem Magnitude.nonneg {u : UnpackedFloat} {x : WithTop ℚ} (h : Magnitude u x) : 0 ≤ x := by
  cases h with
  | zero s => exact le_rfl
  | @finite m e =>
    have above : (0 : ℚ) ≤ m * 2 ^ e := by positivity
    exact_mod_cast above
  | infinity => exact le_top

theorem Magnitude.eq_zero {u : UnpackedFloat} (h : Magnitude u 0) : ∃ s, u = .zero s := by
  generalize zero : (0 : WithTop ℚ) = x at h
  cases h with
  | zero s => exact ⟨s, rfl⟩
  | @finite m e positive =>
    have above : (0 : ℚ) < m * 2 ^ e := by positivity
    exact absurd (WithTop.coe_inj.1 zero) above.ne
  | infinity => cases zero

theorem Canonical.full {m : ℕ} {e : ℤ} (h : Canonical m e) (larger : -1074 < e) :
    (2 : ℚ) ^ (52 : ℤ) ≤ m := by
  exact_mod_cast h.2.2.resolve_left larger.ne'

theorem Canonical.full_of_one_le {m : ℕ} {e : ℤ} (h : Canonical m e)
    (large : 1 ≤ (m * 2 ^ e : ℚ)) : 2 ^ 52 ≤ m := by
  obtain ⟨fits, least, rfl | full⟩ := h
  · have small := Nearest.small_of_lt (g := -1074) (t := -52) fits (by decide)
    exact absurd large (not_le.2 (small.trans_eq (by norm_num)))
  · exact full

theorem Canonical.lt_of_lt {m n : ℕ} {e f : ℤ} (h : Canonical m e) (h' : Canonical n f)
    (smaller : e < f) :
    (m * 2 ^ e : ℚ) < n * 2 ^ f := by
  obtain ⟨fits, least, -⟩ := h
  calc (m : ℚ) * 2 ^ e < 2 ^ (52 + f) := Nearest.small_of_lt fits smaller
    _ = 2 ^ (52 : ℤ) * 2 ^ f := two_zpow_add _ _
    _ ≤ n * 2 ^ f :=
      mul_le_mul_of_nonneg_right (h'.full (least.trans_lt smaller)) (two_zpow_pos f).le

theorem Magnitude.le_iff {u v : UnpackedFloat} {x y : WithTop ℚ} (h : Magnitude u x)
    (h' : Magnitude v y) :
    u.le v = true ↔ x ≤ y := by
  cases h with
  | zero s =>
    cases h' with
    | zero => exact iff_of_true rfl le_rfl
    | finite positive canonical largest =>
      exact iff_of_true rfl (finite positive canonical largest).nonneg
    | infinity => exact iff_of_true rfl le_top
  | @finite m e positive canonical largest =>
    have above : (0 : ℚ) < m * 2 ^ e := by positivity
    cases h' with
    | zero => exact iff_of_false nofun (not_le.2 (by exact_mod_cast above))
    | infinity => exact iff_of_true rfl le_top
    | @finite n f positive' canonical' largest' =>
      rw [WithTop.coe_le_coe]
      change ((compare e f).then (compare m n)).isLE = true ↔ _
      rcases lt_trichotomy e f with smaller | rfl | larger
      · rw [compare_lt_iff_lt.2 smaller]
        exact iff_of_true rfl (canonical.lt_of_lt canonical' smaller).le
      · rw [compare_eq_iff_eq.2 rfl, Ordering.eq_then,
          mul_le_mul_iff_left₀ (two_zpow_pos e), Nat.cast_le]
        exact Nat.isLE_compare
      · rw [compare_gt_iff_gt.2 larger]
        exact iff_of_false nofun (not_le.2 (canonical'.lt_of_lt canonical larger))
  | infinity =>
    cases h' with
    | zero => exact iff_of_false nofun (not_le.2 (WithTop.coe_lt_top 0))
    | finite => exact iff_of_false nofun (not_le.2 (WithTop.coe_lt_top _))
    | infinity => exact iff_of_true rfl le_rfl

theorem Magnitude.packed {u : UnpackedFloat} {x : WithTop ℚ} (h : Magnitude u x) :
    Magnitude (stored u) x := by
  cases h with
  | zero s =>
    rw [stored_zero]
    exact .zero s
  | finite positive canonical largest =>
    rw [stored_finite _ positive canonical largest]
    exact .finite positive canonical largest
  | infinity =>
    rw [stored_infinity]
    exact .infinity

/-- What a rounded result says about the exact one. -/
structure Rounds (x : ℚ) (z : WithTop ℚ) : Prop where
  lower : ∀ {k : ℕ} {g : ℤ}, k < 2 ^ 53 → -1074 ≤ g → k * 2 ^ g ≤ x →
    ((k * 2 ^ g : ℚ) : WithTop ℚ) ≤ z
  upper : ∀ {k : ℕ} {g : ℤ}, k < 2 ^ 53 → -1074 ≤ g → g ≤ 971 → x ≤ k * 2 ^ g →
    z ≤ ((k * 2 ^ g : ℚ) : WithTop ℚ)
  relative : ∀ {k : ℕ} {y : ℚ}, x = k * 2 ^ (-1074 : ℤ) → z = y →
    y ≤ x * (1 + 2 ^ (-53 : ℤ))

theorem Nearest.rounds {x : ℚ} {r : ℕ} {t : ℤ} (h : Nearest x r t) :
    Rounds x (r * 2 ^ t : ℚ) where
  lower fits least below := WithTop.coe_le_coe.2 (h.ge_of_fits fits least below)
  upper fits least _ above := WithTop.coe_le_coe.2 (h.le_of_fits fits least above)
  relative whole same := by
    rw [← WithTop.coe_inj.1 same]
    exact h.relative whole

theorem Nearest.overflows {x : ℚ} {r : ℕ} {t : ℤ} (h : Nearest x r t)
    (large : 2 ^ (1024 : ℤ) ≤ (r * 2 ^ t : ℚ)) :
    Rounds x ⊤ where
  lower _ _ _ := le_top
  upper {k g} fits least largest above := by
    have next : g < 972 := by omega
    have finite := Nearest.small_of_lt fits next
    exact absurd (large.trans (h.le_of_fits fits least above)) finite.not_ge
  relative _ same := nomatch same

theorem rounds_of_hasValue {x : ℚ} {r : ℕ} {t : ℤ} {u : UnpackedFloat}
    (nearest : Nearest x r t) (value : HasValue u (r * 2 ^ t)) :
    ∃ z, Magnitude (stored u) z ∧ Rounds x z := by
  have rounds := nearest.rounds
  have overflows := nearest.overflows
  generalize (r * 2 ^ t : ℚ) = y at value rounds overflows
  cases value with
  | zero s => exact ⟨_, (Magnitude.zero s).packed, rounds⟩
  | @finite m e positive canonical =>
    rcases le_or_gt e 971 with largest | large
    · exact ⟨_, (Magnitude.finite positive canonical largest).packed, rounds⟩
    · refine ⟨⊤, ?_, overflows ?_⟩
      · rw [stored_overflow _ positive large]
        exact .infinity
      · have full := canonical.full (lt_trans (by decide) large)
        calc (2 : ℚ) ^ (1024 : ℤ) = 2 ^ (52 : ℤ) * 2 ^ (972 : ℤ) := two_zpow_add 52 972
          _ ≤ m * 2 ^ e :=
            mul_le_mul full (two_zpow_le large) (two_zpow_pos _).le (Nat.cast_nonneg m)

theorem roundWithAccuracy_sign (s : Sign) (m : ℕ) (e : ℤ) (accuracy : Accuracy) :
    (roundWithAccuracy Format.binary64 .positive m e accuracy = .zero .positive ∧
        roundWithAccuracy Format.binary64 s m e accuracy = .zero s) ∨
      ∃ n f, ∃ positive : 0 < n, roundWithAccuracy Format.binary64 .positive m e accuracy =
        .finite .positive n f positive ∧
        roundWithAccuracy Format.binary64 s m e accuracy = .finite s n f positive := by
  simp only [roundWithAccuracy]
  split
  · exact Or.inl ⟨rfl, rfl⟩
  · next some => exact Or.inr ⟨_, _, Nat.pos_of_ne_zero some, rfl, rfl⟩

theorem rounds_roundWithAccuracy {m : ℕ} {e : ℤ} {accuracy : Accuracy} {x : ℚ}
    (precise : 52 ≤ m.log2 ∨ e ≤ -1074)
    (reads : Reads (.ofMantissaAndAccuracy m accuracy) x) :
    ∃ z, Magnitude (stored (roundWithAccuracy Format.binary64 .positive m e accuracy)) z ∧
      Rounds (x * 2 ^ e) z := by
  obtain ⟨r, t, nearest, value⟩ := roundWithAccuracy_hasValue precise reads
  exact rounds_of_hasValue nearest value

theorem decreased (m : ℕ) (e : ℤ) (k : ℕ) :
    ((m <<< k : ℕ) : ℚ) * 2 ^ (e - k) = m * 2 ^ e := by
  rw [Nat.shiftLeft_eq]
  push_cast
  rw [mul_assoc, ← zpow_natCast, ← two_zpow_add, add_sub_cancel]

theorem round_hasValue {m : ℕ} {e : ℤ} (positive : m ≠ 0) :
    ∃ r t, Nearest (m * 2 ^ e) r t ∧
      HasValue (UnpackedFloat.round Format.binary64 .positive m e) (r * 2 ^ t) := by
  simp only [UnpackedFloat.round, decreaseExponent]
  generalize amount : (e - Format.binary64.targetExponent (totalExponent m e)).toNat = k
  have precise : 52 ≤ (m <<< k).log2 ∨ e - (k : ℤ) ≤ -1074 := by
    rw [log2_shiftLeft positive, ← amount]
    simp only [Format.targetExponent, totalExponent, Format.mantissaBits, Format.minExponent]
    norm_num
    omega
  rw [← decreased m e k]
  exact roundWithAccuracy_hasValue precise (.exact _)

theorem rounds_round {m : ℕ} {e : ℤ} (positive : m ≠ 0) :
    ∃ z, Magnitude (stored (UnpackedFloat.round Format.binary64 .positive m e)) z ∧
      Rounds (m * 2 ^ e) z := by
  obtain ⟨r, t, nearest, value⟩ := round_hasValue (e := e) positive
  exact rounds_of_hasValue nearest value

variable {a b : Float} {x y : WithTop ℚ}

theorem unpack_add (a b : Float) :
    (a + b).toModel.unpack =
      stored (UnpackedFloat.add Format.binary64 a.toModel.unpack b.toModel.unpack) :=
  rfl

theorem unpack_mul (a b : Float) :
    (a * b).toModel.unpack =
      stored (UnpackedFloat.mul Format.binary64 a.toModel.unpack b.toModel.unpack) :=
  rfl

theorem unpack_div (a b : Float) :
    (a / b).toModel.unpack =
      stored (UnpackedFloat.div Format.binary64 a.toModel.unpack b.toModel.unpack) :=
  rfl

theorem le_iff_magnitude (h : Magnitude a.toModel.unpack x) (h' : Magnitude b.toModel.unpack y) :
    a ≤ b ↔ x ≤ y := by
  change a.le b = true ↔ _
  rw [Float.le, decide_eq_true_iff]
  exact h.le_iff h'

theorem magnitude_of_nonneg (nonneg : 0.0 ≤ a) : ∃ x, Magnitude a.toModel.unpack x := by
  change (0.0 : Float).le a = true at nonneg
  rw [Float.le, decide_eq_true_iff] at nonneg
  change UnpackedFloat.le (.zero .positive) a.toModel.unpack = true at nonneg
  generalize unpacked : a.toModel.unpack = u at nonneg ⊢
  cases u with
  | notANumber => cases nonneg
  | zero s => exact ⟨0, .zero s⟩
  | infinity s =>
    cases s with
    | negative => cases nonneg
    | positive => exact ⟨⊤, .infinity⟩
  | finite s m e positive =>
    cases s with
    | negative => cases nonneg
    | positive =>
      obtain ⟨canonical, largest⟩ := canonical_of_unpack unpacked
      exact ⟨_, .finite positive canonical largest⟩

theorem normalize_natCast {m : ℕ} {e : ℤ} (positive : m ≠ 0) (sign : Sign) :
    UnpackedFloat.normalize Format.binary64 m e sign =
      UnpackedFloat.round Format.binary64 .positive m e := by
  have above : compare (m : ℤ) 0 = .gt := by
    rw [Int.compare_eq_gt]
    omega
  simp only [UnpackedFloat.normalize, above, Int.toNat_natCast]

theorem rounds_add {m n : ℕ} {e f : ℤ} (positive : 0 < m) (positive' : 0 < n) :
    ∃ z, Magnitude (stored (UnpackedFloat.add Format.binary64 (.finite .positive m e positive)
      (.finite .positive n f positive'))) z ∧
        Rounds (m * 2 ^ e + n * 2 ^ f) z := by
  have first := decreased m e (e - min e f).toNat
  have second := decreased n f (f - min e f).toNat
  rw [show e - ((e - min e f).toNat : ℤ) = min e f by omega] at first
  rw [show f - ((f - min e f).toNat : ℤ) = min e f by omega] at second
  have sum : m <<< (e - min e f).toNat + n <<< (f - min e f).toNat ≠ 0 := by
    simp only [Nat.shiftLeft_eq]
    positivity
  rw [← first, ← second, ← add_mul, ← Nat.cast_add]
  simp only [UnpackedFloat.add, decreaseExponent, Sign.apply, ← Nat.cast_add,
    normalize_natCast sum]
  exact rounds_round sum

theorem magnitude_add (h : Magnitude a.toModel.unpack x) (h' : Magnitude b.toModel.unpack y) :
    ∃ z, Magnitude (a + b).toModel.unpack z ∧ x ≤ z ∧ y ≤ z := by
  rw [unpack_add]
  generalize a.toModel.unpack = u at h ⊢
  generalize b.toModel.unpack = v at h' ⊢
  cases h with
  | zero s =>
    cases h' with
    | zero s' =>
      refine ⟨0, ?_, le_rfl, le_rfl⟩
      cases s <;> cases s' <;> exact (Magnitude.zero _).packed
    | finite positive canonical largest =>
      have same := Magnitude.finite positive canonical largest
      exact ⟨_, same.packed, same.nonneg, le_rfl⟩
    | infinity => exact ⟨⊤, Magnitude.infinity.packed, le_top, le_rfl⟩
  | @finite m e positive canonical largest =>
    cases h' with
    | zero s' =>
      have same := Magnitude.finite positive canonical largest
      exact ⟨_, same.packed, le_rfl, same.nonneg⟩
    | @finite n f positive' canonical' largest' =>
      obtain ⟨z, magnitude, rounds⟩ := rounds_add positive positive'
      have first : (0 : ℚ) ≤ m * 2 ^ e := by positivity
      have second : (0 : ℚ) ≤ n * 2 ^ f := by positivity
      exact ⟨z, magnitude, rounds.lower canonical.1 canonical.2.1 (by linarith),
        rounds.lower canonical'.1 canonical'.2.1 (by linarith)⟩
    | infinity => exact ⟨⊤, Magnitude.infinity.packed, le_top, le_rfl⟩
  | infinity =>
    refine ⟨⊤, ?_, le_rfl, le_top⟩
    cases h' <;> exact Magnitude.infinity.packed

theorem rounds_mul {m n : ℕ} {e f : ℤ} (positive : 0 < m) (positive' : 0 < n)
    (full : 2 ^ 52 ≤ n) :
    ∃ z, Magnitude (stored (UnpackedFloat.mul Format.binary64 (.finite .positive m e positive)
      (.finite .positive n f positive'))) z ∧
        Rounds (m * 2 ^ e * (n * 2 ^ f)) z := by
  have digits : 52 ≤ (m * n).log2 := by
    rw [Nat.le_log2 (Nat.mul_pos positive positive').ne']
    exact full.trans (Nat.le_mul_of_pos_left n positive)
  have product : (m * 2 ^ e * (n * 2 ^ f) : ℚ) = (m * n : ℕ) * 2 ^ (e + f) := by
    rw [two_zpow_add, Nat.cast_mul, mul_mul_mul_comm]
  rw [product]
  exact rounds_roundWithAccuracy (Or.inl digits) (.exact _)

theorem Reads.quotient (m : ℕ) {n : ℕ} (positive : 0 < n) :
    Reads (.ofMantissaAndAccuracy (m / n) (accuracyOfFraction (m % n) n)) (m / n : ℚ) := by
  have rest : m % n < n := Nat.mod_lt m positive
  have unit : (0 : ℚ) < n := by exact_mod_cast positive
  have parts : (m / n : ℚ) = (m / n : ℕ) + (m % n : ℕ) / n := by
    rw [eq_comm, ← sub_eq_zero]
    field_simp
    have whole : (n : ℚ) * (m / n : ℕ) + (m % n : ℕ) = m := by
      exact_mod_cast Nat.div_add_mod m n
    linarith
  rw [parts, accuracyOfFraction]
  split
  · next none =>
    rw [none, Nat.cast_zero, zero_div, add_zero]
    exact .exact _
  · next some =>
    have above : (0 : ℚ) < (m % n : ℕ) / n :=
      div_pos (by exact_mod_cast Nat.pos_of_ne_zero some) unit
    have below : ((m % n : ℕ) / n : ℚ) < 1 := (div_lt_one unit).2 (by exact_mod_cast rest)
    -- The accuracy says on which side of one half the rest of the division lies.
    rcases lt_trichotomy (2 * (m % n)) n with low | middle | high
    · rw [compare_lt_iff_lt.2 low]
      have less : ((m % n : ℕ) / n : ℚ) < 1 / 2 := by
        rw [div_lt_div_iff₀ unit two_pos, one_mul, mul_comm]
        exact_mod_cast low
      exact ⟨lt_add_of_pos_right _ above, add_lt_add_right less _⟩
    · rw [compare_eq_iff_eq.2 middle]
      have same : ((m % n : ℕ) / n : ℚ) = 1 / 2 := by
        rw [div_eq_div_iff unit.ne' two_ne_zero, one_mul, mul_comm]
        exact_mod_cast middle
      exact congrArg _ same
    · rw [compare_gt_iff_gt.2 high]
      have more : 1 / 2 < ((m % n : ℕ) / n : ℚ) := by
        rw [div_lt_div_iff₀ two_pos unit, one_mul, mul_comm]
        exact_mod_cast high
      exact ⟨add_lt_add_right more _, add_lt_add_right below _⟩

theorem div_hasValue {m n : ℕ} {e f : ℤ} (positive : 0 < m) (positive' : 0 < n) :
    ∃ r t, Nearest (m * 2 ^ e / (n * 2 ^ f)) r t ∧
      HasValue (UnpackedFloat.div Format.binary64 (.finite .positive m e positive)
        (.finite .positive n f positive')) (r * 2 ^ t) := by
  simp only [UnpackedFloat.div, divCore]
  generalize place : min (e - f)
    (Format.binary64.targetExponent (totalExponent m e - totalExponent n f)) = t
  have kept : e - f - ((e - f - t).toNat : ℤ) = t := by omega
  have shifted := decreased m (e - f) (e - f - t).toNat
  rw [kept] at shifted
  have precise : 52 ≤ (m <<< (e - f - t).toNat / n).log2 ∨ t ≤ -1074 := by
    refine or_iff_not_imp_right.2 fun larger => ?_
    have digits : 52 + (n.log2 + 1) ≤ m.log2 + (e - f - t).toNat := by
      simp only [Format.targetExponent, totalExponent, Format.mantissaBits,
        Format.minExponent] at place
      norm_num at place
      omega
    have full : 2 ^ 52 ≤ m <<< (e - f - t).toNat / n := by
      rw [Nat.le_div_iff_mul_le positive', Nat.shiftLeft_eq]
      calc 2 ^ 52 * n ≤ 2 ^ 52 * 2 ^ (n.log2 + 1) := Nat.mul_le_mul_left _ Nat.lt_log2_self.le
        _ = 2 ^ (52 + (n.log2 + 1)) := (Nat.pow_add ..).symm
        _ ≤ 2 ^ (m.log2 + (e - f - t).toNat) := Nat.pow_le_pow_right two_pos digits
        _ = 2 ^ m.log2 * 2 ^ (e - f - t).toNat := Nat.pow_add ..
        _ ≤ m * 2 ^ (e - f - t).toNat := Nat.mul_le_mul_right _ (Nat.log2_self_le positive.ne')
    exact (Nat.le_log2 (by omega)).2 full
  have quotient : (m * 2 ^ e / (n * 2 ^ f) : ℚ) =
      (m <<< (e - f - t).toNat : ℕ) / n * 2 ^ t := by
    rw [div_mul_eq_mul_div, shifted, zpow_sub₀ two_ne_zero]
    field_simp
  rw [quotient]
  exact roundWithAccuracy_hasValue precise (.quotient _ positive')

theorem rounds_div {m n : ℕ} {e f : ℤ} (positive : 0 < m) (positive' : 0 < n) :
    ∃ z, Magnitude (stored (UnpackedFloat.div Format.binary64 (.finite .positive m e positive)
      (.finite .positive n f positive'))) z ∧
        Rounds (m * 2 ^ e / (n * 2 ^ f)) z := by
  obtain ⟨r, t, nearest, value⟩ := div_hasValue (e := e) (f := f) positive positive'
  exact rounds_of_hasValue nearest value

theorem beq_zero_of_magnitude (h : Magnitude a.toModel.unpack 0) : (a == 0.0) = true := by
  obtain ⟨s, zero⟩ := h.eq_zero
  change a.toModel.unpack.beq (.zero .positive) = true
  rw [zero]
  rfl

theorem magnitude_mul_le {n k : ℕ} {f : ℤ} (h : Magnitude a.toModel.unpack x) (positive : 0 < n)
    (factor : b.toModel.unpack = .finite .positive n f positive) (full : 2 ^ 52 ≤ n)
    (whole : (n * 2 ^ f : ℚ) = k) (finite : (a * b).isFinite = true) :
    ∃ p q : ℚ, x = p ∧ Magnitude (a * b).toModel.unpack q ∧
      q ≤ p * k * (1 + 2 ^ (-53 : ℤ)) := by
  change (a * b).toModel.unpack.isFinite = true at finite
  rw [unpack_mul, factor] at finite ⊢
  generalize a.toModel.unpack = u at h finite ⊢
  cases h with
  | zero s => exact ⟨0, 0, rfl, (Magnitude.zero _).packed, by simp⟩
  | @finite m e positive' canonical largest =>
    obtain ⟨z, magnitude, rounds⟩ := rounds_mul (e := e) (f := f) positive' positive full
    obtain ⟨q, rfl⟩ := magnitude.number_of_isFinite finite
    refine ⟨m * 2 ^ e, q, rfl, magnitude, ?_⟩
    rw [whole] at rounds
    have units : (m * 2 ^ e * k : ℚ) =
        (m * 2 ^ (e - -1074).toNat * k : ℕ) * 2 ^ (-1074 : ℤ) := by
      rw [← Nearest.multiple_of_le canonical.2.1, Nat.cast_mul _ k, mul_right_comm]
    exact rounds.relative units rfl
  | infinity =>
    obtain ⟨q, same⟩ := Magnitude.infinity.packed.number_of_isFinite finite
    cases same

theorem magnitude_div_le {p : ℚ} {k : ℕ} {g : ℤ} (h : Magnitude a.toModel.unpack p)
    (h' : Magnitude b.toModel.unpack y) (divisor : y ≠ 0) (fits : k < 2 ^ 53)
    (least : -1074 ≤ g) (largest : g ≤ 971)
    (bound : ∀ q : ℚ, y = q → p ≤ k * 2 ^ g * q) :
    ∃ z, Magnitude (a / b).toModel.unpack z ∧ z ≤ ((k * 2 ^ g : ℚ) : WithTop ℚ) := by
  rw [unpack_div]
  have nonneg : (0 : ℚ) ≤ k * 2 ^ g := by positivity
  have nothing (s : Sign) :
      ∃ z, Magnitude (stored (.zero s)) z ∧ z ≤ ((k * 2 ^ g : ℚ) : WithTop ℚ) :=
    ⟨0, (Magnitude.zero s).packed, by exact_mod_cast nonneg⟩
  generalize value : (p : WithTop ℚ) = x at h
  generalize a.toModel.unpack = u at h ⊢
  generalize b.toModel.unpack = v at h' ⊢
  cases h' with
  | zero => exact absurd rfl divisor
  | infinity =>
    cases h with
    | zero | finite => exact nothing _
    | infinity => cases value
  | @finite n f positive' canonical' largest' =>
    cases h with
    | zero => exact nothing _
    | @finite m e positive canonical largest'' =>
      obtain rfl := WithTop.coe_inj.1 value
      obtain ⟨z, magnitude, rounds⟩ := rounds_div (e := e) (f := f) positive positive'
      have unit : (0 : ℚ) < n * 2 ^ f := by positivity
      exact ⟨z, magnitude,
        rounds.upper fits least largest ((div_le_iff₀ unit).2 (bound _ rfl))⟩
    | infinity => cases value

end IfaceMonitor.Rounding
