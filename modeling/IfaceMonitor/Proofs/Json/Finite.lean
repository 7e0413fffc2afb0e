import IfaceMonitor.Json.Parser
import IfaceMonitor.Proofs.Decimal.Conversion
import IfaceMonitor.Proofs.Json.Record

/-!
Finite numbers in JSON values. A numeral is read by products and quotients with powers of ten, and a
product that is too large for a double is no number, so text that can be read has no other numbers
(`Json.isFinite_of_parse`), and what is decoded from it has none either.
-/

namespace IfaceMonitor

namespace Rounding
open Float.Model Float.Model.UnpackedFloat

theorem isFinite_neg {a : Float} (finite : a.isFinite = true) : (-a).isFinite = true := by
  change a.toModel.unpack.isFinite = true at finite
  change (stored (UnpackedFloat.neg a.toModel.unpack)).isFinite = true
  cases unpacked : a.toModel.unpack with
  | zero s =>
    rw [UnpackedFloat.neg, stored_zero]
    rfl
  | finite s m e positive =>
    obtain ⟨canonical, largest⟩ := canonical_of_unpack unpacked
    rw [UnpackedFloat.neg, stored_finite _ positive canonical largest]
    rfl
  | infinity | notANumber =>
    rw [unpacked] at finite
    cases finite

theorem Magnitude.isFinite {u : UnpackedFloat} {x : ℚ} (h : Magnitude u x) :
    u.isFinite = true := by
  generalize same : (x : WithTop ℚ) = y at h
  cases h with
  | zero | finite => rfl
  | infinity => cases same

theorem Magnitude.number_of_bounded {u : UnpackedFloat} {x : WithTop ℚ} (h : Magnitude u x)
    (bounded : u.isInf = false) :
    ∃ q : ℚ, x = q := by
  cases h with
  | zero s => exact ⟨0, rfl⟩
  | finite => exact ⟨_, rfl⟩
  | infinity => cases bounded

theorem Magnitude.exists_fitting {u : UnpackedFloat} {x : ℚ} (h : Magnitude u x) :
    ∃ (k : ℕ) (g : ℤ), k < 2 ^ 53 ∧ -1074 ≤ g ∧ g ≤ 971 ∧ x = k * 2 ^ g := by
  generalize value : (x : WithTop ℚ) = y at h
  cases h with
  | zero s =>
    exact ⟨0, 0, by
    decide, by decide, by decide, by rw [WithTop.coe_eq_zero.1 value, Nat.cast_zero, zero_mul]⟩
  | @finite m e positive canonical largest =>
    exact ⟨m, e, canonical.1, canonical.2.1, largest, WithTop.coe_inj.1 value⟩
  | infinity => cases value

def Large (a : Float) : Prop :=
  ∃ q : ℚ, Magnitude a.toModel.unpack q ∧ 1 ≤ q

def Regular (a : Float) : Prop :=
  ∃ q : ℚ, Magnitude a.toModel.unpack q

variable {a b : Float}

theorem regular_mul (regular : Regular a) (large : Large b) (bounded : (a * b).isInf = false) :
    Regular (a * b) := by
  obtain ⟨x, h⟩ := regular
  obtain ⟨y, h', large⟩ := large
  change (a * b).toModel.unpack.isInf = false at bounded
  rw [unpack_mul] at bounded
  rw [Regular, unpack_mul]
  generalize value : (x : WithTop ℚ) = p at h
  generalize value' : (y : WithTop ℚ) = q at h'
  generalize a.toModel.unpack = u at h bounded
  generalize b.toModel.unpack = v at h' bounded
  cases h' with
  | zero s =>
    rw [WithTop.coe_eq_zero.1 value'] at large
    exact absurd large (by norm_num)
  | @finite n f positive' canonical' =>
    cases h with
    | zero s => exact ⟨0, (Magnitude.zero _).packed⟩
    | @finite m e positive =>
      rw [WithTop.coe_inj.1 value'] at large
      obtain ⟨z, magnitude, -⟩ :=
        rounds_mul (e := e) (f := f) positive positive' (canonical'.full_of_one_le large)
      obtain ⟨q, rfl⟩ := magnitude.number_of_bounded bounded
      exact ⟨q, magnitude⟩
    | infinity => cases value
  | infinity => cases value'

theorem regular_div (regular : Regular a) (large : Large b) : Regular (a / b) := by
  obtain ⟨x, h⟩ := regular
  obtain ⟨y, h', large⟩ := large
  obtain ⟨k, g, fits, least, largest, rfl⟩ := h.exists_fitting
  have divisor : (y : WithTop ℚ) ≠ 0 := by
    rw [ne_eq, WithTop.coe_eq_zero]
    exact (zero_lt_one.trans_le large).ne'
  have bound (q : ℚ) (value : (y : WithTop ℚ) = q) : (k * 2 ^ g : ℚ) ≤ k * 2 ^ g * q := by
    obtain rfl := WithTop.coe_inj.1 value
    exact le_mul_of_one_le_right (by positivity) large
  obtain ⟨z, magnitude, below⟩ := magnitude_div_le h h' divisor fits least largest bound
  obtain ⟨q, rfl⟩ := WithTop.ne_top_iff_exists.1 (ne_top_of_le_ne_top WithTop.coe_ne_top below)
  exact ⟨q, magnitude⟩

end Rounding

namespace Json

mutual

def IsFinite : Json → Prop
  | .float x => x.isFinite = true
  | .arr items => AreFinite items
  | .obj members => HaveFinite members
  | _ => True

def AreFinite : List Json → Prop
  | [] => True
  | value :: rest => IsFinite value ∧ AreFinite rest

def HaveFinite : List (String × Json) → Prop
  | [] => True
  | (_, value) :: rest => IsFinite value ∧ HaveFinite rest

end

theorem areFinite_iff {items : List Json} : AreFinite items ↔ ∀ v ∈ items, v.IsFinite := by
  induction items with
  | nil => simp [AreFinite]
  | cons v items ih => rw [AreFinite, ih, List.forall_mem_cons]

theorem haveFinite_iff {members : List (String × Json)} :
    HaveFinite members ↔ ∀ m ∈ members, m.2.IsFinite := by
  induction members with
  | nil => simp [HaveFinite]
  | cons m members ih => rw [HaveFinite, ih, List.forall_mem_cons]

open Rounding Float.Model

theorem small_powerOfTen :
    ∀ n ≤ 22, (powerOfTen n).isFinite = true ∧ 0.0 ≤ powerOfTen n ∧
      1.0 ≤ powerOfTen n := by
  decide +kernel

theorem large_of_great_power {n : ℕ} (more : 22 < n) (inside : n ≤ 308) :
    Large (powerOfTen n) := by
  have full : 2 ^ 52 ≤ 10 ^ n := le_trans (by norm_num) (Nat.pow_le_pow_right (by decide) more.le)
  have unpacked : (powerOfTen n).toModel.unpack = stored (UnpackedFloat.mul Format.binary64
      (.finite .positive (1 <<< 53) (-53) (by decide))
          (.finite .positive (10 ^ n) 0 (Nat.pow_pos (by decide)))) := by
    have apart : ¬(1 < 2 ^ 53 ∧ n ≤ 22) := by omega
    have within : ¬(n : ℤ) > 2 ^ Format.binary64.exponentBits :=
      not_lt.2 (Int.ofNat_le.2 (inside.trans (by decide)))
    have above : ¬(n : ℤ) < -(2 ^ Format.binary64.exponentBits + (Nat.log2 1 : ℕ)) :=
      not_lt.2 (le_trans (by decide) n.cast_nonneg)
    -- Beyond 22 the power is no exact quotient of doubles but a product that is rounded.
    rw [powerOfTen, Float.ofScientific, dif_neg apart]
    change stored (UnpackedFloat.ofScientific Format.binary64 1 n) = _
    rw [UnpackedFloat.ofScientific, dif_neg one_ne_zero, if_neg within, if_neg above,
      if_pos n.cast_nonneg]
    rfl
  obtain ⟨z, magnitude, rounds⟩ :=
    rounds_mul (m := 1 <<< 53) (e := -53) (f := 0) (by decide) (Nat.pow_pos (by decide)) full
  rw [← unpacked] at magnitude
  have value : ((1 <<< 53 : ℕ) * 2 ^ (-53 : ℤ) * ((10 ^ n : ℕ) * 2 ^ (0 : ℤ)) : ℚ) =
      (10 ^ n : ℕ) := by
    push_cast
    norm_num
  rw [value] at rounds
  have least : (1 : ℕ) * 2 ^ (0 : ℤ) ≤ ((10 ^ n : ℕ) : ℚ) := by
    rw [zpow_zero, mul_one, Nat.cast_le]
    exact Nat.one_le_pow _ _ (by decide)
  have most : ((10 ^ n : ℕ) : ℚ) ≤ (2 ^ 53 - 1 : ℕ) * 2 ^ (971 : ℤ) := by
    have last : ∀ n ≤ 308, 10 ^ n ≤ (2 ^ 53 - 1) * 2 ^ 971 := by decide +kernel
    exact_mod_cast last n inside
  have above := rounds.lower (by decide) (by decide) least
  have below := rounds.upper (by decide) (by decide) le_rfl most
  obtain ⟨q, rfl⟩ := WithTop.ne_top_iff_exists.1 (ne_top_of_le_ne_top WithTop.coe_ne_top below)
  rw [Nat.cast_one, zpow_zero, mul_one, WithTop.coe_le_coe] at above
  exact ⟨q, magnitude, above⟩

theorem powerOfTen_large {n : ℕ} (inside : n ≤ 308) : Large (powerOfTen n) := by
  rcases le_or_gt n 22 with small | more
  · obtain ⟨finite, nonneg, large⟩ := small_powerOfTen n small
    have one : Magnitude (1.0 : Float).toModel.unpack ((2 ^ 52 : ℕ) * 2 ^ (-52 : ℤ) : ℚ) :=
      .finite (by decide) ⟨by decide, by decide, Or.inr le_rfl⟩ (by decide)
    obtain ⟨z, magnitude⟩ := magnitude_of_nonneg nonneg
    obtain ⟨q, rfl⟩ := magnitude.number_of_isFinite finite
    refine ⟨q, magnitude, ?_⟩
    have above := WithTop.coe_le_coe.1 ((le_iff_magnitude one magnitude).1 large)
    norm_num at above
    exact above
  · exact large_of_great_power more inside

theorem scale_regular {fuel : ℕ} {x y : Float} {power : ℤ} (regular : Regular x)
    (scaled : scale x power fuel = some y) :
    Regular y := by
  induction fuel generalizing x power with
  | zero =>
    cases scaled
    exact ⟨0, .zero .positive⟩
  | succ fuel ih =>
    rw [scale] at scaled
    split at scaled
    · next up =>
      split at scaled
      · cases scaled
        exact regular
      · split at scaled
        · cases scaled
        · next inside =>
          dsimp only at scaled
          split at scaled
          · cases scaled
          · next bounded =>
            cases scaled
            exact regular_mul regular (powerOfTen_large (by omega)) (Bool.eq_false_iff.2 bounded)
    · next down =>
      split at scaled
      · cases scaled
        exact regular_div regular (powerOfTen_large (by omega))
      · split at scaled
        · cases scaled
          exact regular
        · refine ih (regular_div regular ?_) scaled
          exact powerOfTen_large (n := 308) (by decide)

theorem isFinite_double? {n : Numeral} {x : Float} (read : n.double? = some x) :
    x.isFinite = true := by
  rw [Numeral.double?] at read
  obtain ⟨y, scaled, rfl⟩ := Option.map_eq_some_iff.1 read
  obtain ⟨r, t, -, value⟩ := magnitude_toFloat n.scientific.1.toUInt64
  obtain ⟨q, magnitude⟩ := scale_regular ⟨_, value⟩ scaled
  have finite : y.isFinite = true := magnitude.isFinite
  split
  · exact isFinite_neg finite
  · exact finite

theorem isFinite_value (n : Numeral) : (n.value?.getD .unreadable).IsFinite := by
  rw [Numeral.value?]
  split
  · trivial
  · split
    · trivial
    · cases read : n.double? with
      | none => trivial
      | some x => exact isFinite_double? read

theorem isFinite_of_readScalar {fuel : ℕ} {cs rest : List Char} {value : Json}
    (read : readScalar? fuel cs = some (value, rest)) :
    value.IsFinite := by
  rw [readScalar?.eq_def] at read
  split at read
  · cases read
    trivial
  · cases read
    trivial
  · cases read
    trivial
  · obtain ⟨⟨text, others⟩, -, same⟩ := Option.bind_eq_some_iff.1 read
    cases same
    cases text <;> trivial
  · obtain ⟨⟨numeral, others⟩, -, same⟩ := Option.bind_eq_some_iff.1 read
    cases same
    exact isFinite_value numeral

theorem isFinite_of_read (fuel : ℕ) :
    (∀ levels cs value rest, readValue? fuel levels cs = some (value, rest) →
      value.IsFinite) ∧
    (∀ levels cs items rest, readItems? fuel levels cs = some (items, rest) →
      AreFinite items) ∧
    ∀ levels cs members rest, readMembers? fuel levels cs = some (some members, rest) →
      HaveFinite members := by
  -- The three read each other's parts, so they share the induction.
  induction fuel with
  | zero => exact ⟨nofun, nofun, nofun⟩
  | succ fuel ih =>
    obtain ⟨values, items, members⟩ := ih
    refine ⟨fun levels cs value rest read => ?_, fun levels cs listed rest read =>
      ?_, fun levels cs listed rest read => ?_⟩
    · rw [readValue?] at read
      split at read
      · split at read
        · obtain ⟨_, -, same⟩ := Option.map_eq_some_iff.1 read
          cases same
          trivial
        · split at read
          · cases read
            trivial
          · obtain ⟨⟨listed, others⟩, read, same⟩ := Option.map_eq_some_iff.1 read
            cases same
            exact items _ _ _ _ read
      · split at read
        · obtain ⟨_, -, same⟩ := Option.map_eq_some_iff.1 read
          cases same
          trivial
        · split at read
          · cases read
            trivial
          · obtain ⟨⟨listed, others⟩, read, same⟩ := Option.map_eq_some_iff.1 read
            cases same
            cases listed with
            | none => trivial
            | some listed => exact members _ _ _ _ read
      · exact isFinite_of_readScalar read
    · rw [readItems?] at read
      obtain ⟨⟨value, cs⟩, first, read⟩ := Option.bind_eq_some_iff.1 read
      dsimp only at read
      split at read
      · obtain ⟨⟨others, cs⟩, more, same⟩ := Option.bind_eq_some_iff.1 read
        cases same
        exact ⟨values _ _ _ _ first, items _ _ _ _ more⟩
      · cases read
        exact ⟨values _ _ _ _ first, trivial⟩
      · cases read
    · rw [readMembers?] at read
      obtain ⟨⟨name, cs⟩, -, read⟩ := Option.bind_eq_some_iff.1 read
      obtain ⟨⟨value, cs⟩, first, read⟩ := Option.bind_eq_some_iff.1 read
      dsimp only at read
      split at read
      · obtain ⟨⟨others, cs⟩, more, same⟩ := Option.bind_eq_some_iff.1 read
        cases name <;> cases others <;> cases same
        exact ⟨values _ _ _ _ first, members _ _ _ _ more⟩
      · cases name <;> cases read
        exact ⟨values _ _ _ _ first, trivial⟩
      · cases read

theorem isFinite_of_parse {text : String} {value : Json} (read : parse? text = some value) :
    value.IsFinite := by
  obtain ⟨⟨value, rest⟩, read, complete⟩ := Option.bind_eq_some_iff.1 read
  dsimp only at complete
  split at complete
  · cases complete
    exact (isFinite_of_read _).1 _ _ _ _ read
  · cases complete

section Fields
variable {α : Type} {decode : Json → Decoded α} {fields : List (String × Json)} {name : String}
  {names : List String} {value : Json}

theorem finite_of_members (finite : value.IsFinite) (decoded : value.members = .ok fields) :
    ∀ m ∈ fields, m.2.IsFinite := by
  cases value with
  | obj members =>
    cases decoded
    exact haveFinite_iff.1 finite
  | _ => cases decoded

theorem finite_of_record (finite : value.IsFinite) (decoded : value.record names = .ok fields) :
    ∀ m ∈ fields, m.2.IsFinite := by
  rw [record.eq_def] at decoded
  split at decoded
  · split at decoded
    · cases decoded
      exact fun m member => areFinite_iff.1 finite m.2 (List.of_mem_zip member).2
    · cases decoded
  · obtain ⟨members, listed, kept⟩ := bind_eq_ok.1 decoded
    exact fun m member => finite_of_members finite listed m (mem_of_known kept member)

theorem isFinite_floatOfInt (n : Int) : (floatOfInt n).isFinite = true := by
  have magnitude := isFinite_toFloat n.natAbs.toUInt64
  rw [floatOfInt]
  split
  · exact Rounding.isFinite_neg magnitude
  · exact magnitude

theorem isFinite_of_double {x : Float} (finite : value.IsFinite) (decoded : double value = .ok x) :
    x.isFinite = true := by
  cases value with
  | float y =>
    cases decoded
    exact finite
  | int n =>
    cases decoded
    exact isFinite_floatOfInt n
  | _ => cases decoded

theorem eq_default_or_mem {default x : α}
    (decoded : withDefault fields name default decode = .ok x) :
    x = default ∨ ∃ m ∈ fields, decode m.2 = .ok x := by
  rw [withDefault] at decoded
  split at decoded
  · next value stored => exact Or.inr ⟨(name, value), mem_of_lookup stored, decoded⟩
  · cases decoded
    exact Or.inl rfl

theorem isFinite_of_optional {o : Option Float} (finite : ∀ m ∈ fields, m.2.IsFinite)
    (decoded : withDefault fields name none (optional double) = .ok o) :
    ∀ x ∈ o, x.isFinite = true := by
  rintro x ⟨⟩
  rcases eq_default_or_mem decoded with none | ⟨m, member, decoded⟩
  · cases none
  · rw [optional.eq_def] at decoded
    split at decoded
    · cases decoded
    · obtain ⟨y, read, same⟩ := map_eq_ok.1 decoded
      cases same
      exact isFinite_of_double (finite m member) read

end Fields

end Json

end IfaceMonitor
