import FeedLink.Backoff
import Mathlib

/-!
# Doubles do not fall below whole numbers

A schedule computes its delays in double precision, and what is said about a delay is that it is at
least some number of milliseconds. No more than that is shown of doubles here. Rounding is monotone,
and a whole number of at most 53 bits is a double, so that a result whose exact value is at least
such a number is at least that number after it was rounded.

Rounding cuts a mantissa to 53 bits, takes it to itself or to the next one, and cuts once more if
that has a bit too many. Cutting is what could lose something, and `le_cut_normal` says that it does
not.

## Main definitions

* `AtLeast` — a double is at least a whole number
* `Unsigned` — a double is neither a NaN nor below zero

## Main results

* `atLeast_roundWithAccuracy`, `atLeast_round` — rounding does not fall below a whole number
* `AtLeast.unpack_pack` — neither does storing a double
* `AtLeast.add`, `AtLeast.mul`, `atLeast_ofNat`, `AtLeast.le_toUInt64`
* `BackoffConfig.le_delay`, `BackoffConfig.le_next` — what follows for a schedule
-/

namespace FeedLink

open Float.Model Float.Model.UnpackedFloat

variable {c m k : ℕ} {e : ℤ}

/-! ### Mantissas -/

theorem mantissa_shiftRight (em : ExtendedMantissa) (k : ℕ) :
    (em >>> k).mantissa = em.mantissa / 2 ^ k := by
  change (Nat.repeat ExtendedMantissa.shiftRightOne k em).mantissa = _
  induction k with
  | zero => simp [Nat.repeat]
  | succ k ih =>
    rw [Nat.repeat, ExtendedMantissa.shiftRightOne, ih, Nat.div_div_eq_div_mul, ← Nat.pow_succ]

/-- Rounding takes a mantissa to itself or to the next one. -/
theorem roundedMantissa_bounds (em : ExtendedMantissa) :
    em.mantissa ≤ em.roundedMantissa ∧ em.roundedMantissa ≤ em.mantissa + 1 := by
  obtain ⟨mantissa, roundBit, stickyBit⟩ := em
  cases roundBit <;> cases stickyBit <;>
    simp only [ExtendedMantissa.roundedMantissa, ExtendedMantissa.accuracy,
      Accuracy.roundToNearestEven] <;> omega

/-! ### Values -/

/-- A whole number below `m * 2 ^ e` is below it still when the mantissa is cut to a multiple of a
power of two that divides the number. -/
theorem le_cut (hk : e + k ≤ 0) (hc : (c : ℚ) ≤ m * 2 ^ e) :
    (c : ℚ) ≤ (m / 2 ^ k : ℕ) * 2 ^ (e + k) := by
  obtain ⟨t, ht⟩ := Int.eq_ofNat_of_zero_le (show 0 ≤ -(e + k) by omega)
  have he : e = -((t + k : ℕ) : ℤ) := by push_cast; omega
  have hwhole : c * 2 ^ t * 2 ^ k ≤ m := by
    rw [he, zpow_neg, zpow_natCast, ← div_eq_mul_inv, le_div_iff₀ (by positivity)] at hc
    rw [mul_assoc, ← pow_add]
    exact_mod_cast hc
  have hdiv : c * 2 ^ t ≤ m / 2 ^ k := (Nat.le_div_iff_mul_le (by positivity)).mpr hwhole
  rw [show e + k = -(t : ℤ) by omega, zpow_neg, zpow_natCast, ← div_eq_mul_inv,
    le_div_iff₀ (by positivity)]
  exact_mod_cast hdiv

/-- A number that is at least one has a highest bit that is worth as much. -/
theorem log2_pos_of_le (hpos : 0 < c) (hc : (c : ℚ) ≤ m * 2 ^ e) : 0 ≤ m.log2 + e := by
  by_contra hneg
  have hm : (m : ℚ) < 2 ^ ((m.log2 : ℤ) + 1) := by
    exact_mod_cast (Nat.lt_log2_self : m < 2 ^ (m.log2 + 1))
  have hone : (1 : ℚ) ≤ c := by exact_mod_cast hpos
  have hlt : (m : ℚ) * 2 ^ e < 2 ^ ((m.log2 : ℤ) + 1) * 2 ^ e :=
    mul_lt_mul_of_pos_right hm (by positivity)
  rw [← zpow_add₀ (by norm_num)] at hlt
  have hle : (2 : ℚ) ^ ((m.log2 : ℤ) + 1 + e) ≤ 2 ^ (0 : ℤ) :=
    zpow_le_zpow_right₀ (by norm_num) (by omega)
  rw [zpow_zero] at hle
  linarith

/-- Cutting a mantissa to 53 bits takes nothing from the whole numbers below. -/
theorem le_cut_normal (hsmall : c ≤ 2 ^ 53) (hm : 2 ^ 52 ≤ m)
    (hc : (c : ℚ) ≤ m * 2 ^ e) :
    2 ^ 52 ≤ m / 2 ^ (m.log2 - 52) ∧ m / 2 ^ (m.log2 - 52) < 2 ^ 53 ∧
      (c : ℚ) ≤ (m / 2 ^ (m.log2 - 52) : ℕ) * 2 ^ (e + (m.log2 - 52 : ℕ)) := by
  have hm0 : m ≠ 0 := by omega
  have hlog : 52 ≤ m.log2 := (Nat.le_log2 hm0).mpr hm
  have hlow : 2 ^ 52 ≤ m / 2 ^ (m.log2 - 52) := by
    rw [Nat.le_div_iff_mul_le (by positivity), ← pow_add, Nat.add_sub_cancel' hlog]
    exact Nat.log2_self_le hm0
  have hhigh : m / 2 ^ (m.log2 - 52) < 2 ^ 53 := by
    rw [Nat.div_lt_iff_lt_mul (by positivity), ← pow_add]
    have hexp : 53 + (m.log2 - 52) = m.log2 + 1 := by omega
    rw [hexp]
    exact Nat.lt_log2_self
  refine ⟨hlow, hhigh, ?_⟩
  rcases le_or_gt (e + (m.log2 - 52 : ℕ)) 0 with hneg | hbig
  · exact le_cut hneg hc
  · -- what is left of the mantissa is worth 2 ^ 53 already
    have hpow : (2 : ℚ) ≤ 2 ^ (e + (m.log2 - 52 : ℕ)) := by
      calc (2 : ℚ) = 2 ^ (1 : ℤ) := by norm_num
        _ ≤ _ := zpow_le_zpow_right₀ (by norm_num) (by omega)
    have hlow' : (2 : ℚ) ^ 52 ≤ (m / 2 ^ (m.log2 - 52) : ℕ) := by exact_mod_cast hlow
    calc (c : ℚ) ≤ 2 ^ 53 := by exact_mod_cast hsmall
      _ = 2 ^ 52 * 2 := by norm_num
      _ ≤ _ := mul_le_mul hlow' hpow (by norm_num) (by positivity)

/-! ### Rounding -/

/-- Where a number is at least one, its format asks for an exponent that leaves 53 bits. -/
theorem targetExponent_eq (hpos : 0 < c) (hc : (c : ℚ) ≤ m * 2 ^ e) :
    Format.binary64.targetExponent (totalExponent m e) = m.log2 + e - 52 := by
  have hvalue := log2_pos_of_le hpos hc
  have hmin : Format.binary64.minExponent = -1074 := by decide
  have hbits : (Format.binary64.mantissaBits : ℤ) = 53 := by decide
  simp only [Format.targetExponent, totalExponent, hmin, hbits]
  omega

theorem shiftToTargetExponent_eq (hpos : 0 < c) (hm : 2 ^ 52 ≤ m) (hc : (c : ℚ) ≤ m * 2 ^ e) :
    shiftToTargetExponent .binary64 m e .exact =
      ((⟨m, false, false⟩ : ExtendedMantissa) >>> (m.log2 - 52), e + (m.log2 - 52 : ℕ)) := by
  have hlog : 52 ≤ m.log2 := (Nat.le_log2 (by omega)).mpr hm
  have hshift : (Format.binary64.targetExponent (totalExponent m e) - e).toNat = m.log2 - 52 := by
    rw [targetExponent_eq hpos hc]
    omega
  simp only [shiftToTargetExponent, shiftToExponent, hshift]
  rfl

/-- A double that is at least `c`: an infinite one, or one with all its bits. -/
inductive AtLeast (c : ℕ) : UnpackedFloat → Prop
  | infinity : AtLeast c (.infinity .positive)
  | finite {m : ℕ} {e : ℤ} (hm : 0 < m) (low : 2 ^ 52 ≤ m) (high : m < 2 ^ 53)
      (le : (c : ℚ) ≤ m * 2 ^ e) : AtLeast c (.finite .positive m e hm)

/-- **Rounding does not fall below a whole number** that the exact value reaches. -/
theorem atLeast_roundWithAccuracy (hpos : 0 < c) (hsmall : c ≤ 2 ^ 53) (hm : 2 ^ 52 ≤ m)
    (hc : (c : ℚ) ≤ m * 2 ^ e) :
    AtLeast c (roundWithAccuracy .binary64 .positive m e .exact) := by
  obtain ⟨hlow, hhigh, hcut⟩ := le_cut_normal hsmall hm hc
  set em := (⟨m, false, false⟩ : ExtendedMantissa) >>> (m.log2 - 52) with hem
  have hmantissa : em.mantissa = m / 2 ^ (m.log2 - 52) := mantissa_shiftRight _ _
  obtain ⟨hdown, hup⟩ := roundedMantissa_bounds em
  rw [hmantissa] at hdown hup
  have hround : (c : ℚ) ≤ em.roundedMantissa * 2 ^ (e + (m.log2 - 52 : ℕ)) := by
    refine hcut.trans (mul_le_mul_of_nonneg_right ?_ (by positivity))
    exact_mod_cast hdown
  -- the rounded mantissa may have one bit too many, and is cut once more
  have hrounded : 2 ^ 52 ≤ em.roundedMantissa := hlow.trans hdown
  obtain ⟨hlow', hhigh', hcut'⟩ := le_cut_normal hsmall hrounded hround
  have hfinal : ((⟨em.roundedMantissa, false, false⟩ : ExtendedMantissa) >>>
      (em.roundedMantissa.log2 - 52)).mantissa =
        em.roundedMantissa / 2 ^ (em.roundedMantissa.log2 - 52) := mantissa_shiftRight _ _
  unfold roundWithAccuracy
  rw [shiftToTargetExponent_eq hpos hm hc, ← hem]
  dsimp only
  rw [shiftToTargetExponent_eq hpos hrounded hround]
  dsimp only
  rw [dif_neg (by rw [hfinal]; omega)]
  simp only [hfinal]
  exact .finite _ hlow' hhigh' hcut'

/-- Shifting a mantissa up leaves the value alone. -/
theorem value_shiftLeft (m k : ℕ) (e : ℤ) :
    ((m <<< k : ℕ) : ℚ) * 2 ^ (e - k) = m * 2 ^ e := by
  have hpow : (2 : ℚ) ^ k ≠ 0 := by positivity
  rw [Nat.shiftLeft_eq, zpow_sub₀ (by norm_num), zpow_natCast]
  push_cast
  rw [mul_assoc, mul_div_cancel₀ _ hpow]

/-- So does bringing it to a smaller exponent. -/
theorem value_align (m : ℕ) {e least : ℤ} (h : least ≤ e) :
    ((m <<< (e - least).toNat : ℕ) : ℚ) * 2 ^ least = m * 2 ^ e := by
  have hexponent : e - (e - least).toNat = least := by omega
  rw [← value_shiftLeft m (e - least).toNat e, hexponent]

/-- A mantissa of fewer than 53 bits is shifted up before it is rounded. -/
theorem atLeast_round (hpos : 0 < c) (hsmall : c ≤ 2 ^ 53) (hc : (c : ℚ) ≤ m * 2 ^ e) :
    AtLeast c (UnpackedFloat.round .binary64 .positive m e) := by
  have hshift : (e - Format.binary64.targetExponent (totalExponent m e)).toNat = 52 - m.log2 := by
    rw [targetExponent_eq hpos hc]
    omega
  have hm0 : m ≠ 0 := by
    rintro rfl
    have : (0 : ℚ) < c := by exact_mod_cast hpos
    simp at hc
    omega
  have hm : 2 ^ 52 ≤ m <<< (52 - m.log2) := by
    rw [Nat.shiftLeft_eq]
    calc 2 ^ 52 ≤ 2 ^ (m.log2 + (52 - m.log2)) := Nat.pow_le_pow_right (by omega) (by omega)
      _ = 2 ^ m.log2 * 2 ^ (52 - m.log2) := Nat.pow_add ..
      _ ≤ m * 2 ^ (52 - m.log2) := Nat.mul_le_mul_right _ (Nat.log2_self_le hm0)
  unfold UnpackedFloat.round decreaseExponent
  simp only [hshift]
  exact atLeast_roundWithAccuracy hpos hsmall hm ((value_shiftLeft m _ e).symm ▸ hc)

/-! ### Packing -/

theorem unpackSign_packComponents {spec : Format} (sign : Sign)
    (exponent : BitVec spec.exponentBits) (mantissa : BitVec spec.mantissaBitsWithoutImplicit) :
    unpackSign (packComponents spec sign exponent mantissa) = sign.toBitVec := by
  refine BitVec.eq_of_getElem_eq fun i hi => ?_
  simp only [unpackSign, packComponents, BitVec.getElem_cast, BitVec.getElem_extract,
    BitVec.getLsbD_append]
  rw [if_neg (by omega), if_neg (by omega), BitVec.getLsbD_eq_getElem (by omega)]
  congr 1
  omega

theorem toNat_one_append (mantissa : BitVec 52) :
    (1#1 ++ mantissa).toNat = 2 ^ 52 + mantissa.toNat := by
  rw [BitVec.toNat_append, ← Nat.shiftLeft_add_eq_or_of_lt mantissa.isLt]
  rfl

/-- A double with all its bits is what it was, once it was stored. -/
theorem unpack_pack_of_normal (hm : 0 < m) (hlow : 2 ^ 52 ≤ m) (hhigh : m < 2 ^ 53)
    (hmin : -1074 ≤ e) (hmax : e < 972) :
    unpack .binary64 (UnpackedFloat.pack .binary64 (.finite .positive m e hm)) =
      .finite .positive m e hm := by
  have hlog : m.log2 = 52 := (Nat.log2_eq_iff (by omega)).mpr ⟨hlow, hhigh⟩
  have hbias : e + Format.binary64.exponentBias +
      (Format.binary64.mantissaBitsWithoutImplicit : ℕ) = e + 1075 := add_assoc e 1023 52
  have hexponent : (BitVec.ofNat 11 (e + 1075).toNat).toNat = (e + 1075).toNat :=
    BitVec.toNat_ofNat .. ▸ Nat.mod_eq_of_lt (by omega)
  have hmantissa : (1#1 ++ BitVec.ofNat 52 m).toNat = m := by
    rw [toNat_one_append, BitVec.toNat_ofNat]
    omega
  have hnotMax : BitVec.ofNat 11 (e + 1075).toNat ≠ -1#11 := by
    intro h
    have := congrArg BitVec.toNat h
    simp only [hexponent] at this
    change (e + 1075).toNat = 2047 at this
    omega
  have hnotMin : BitVec.ofNat 11 (e + 1075).toNat ≠ 0#11 := by
    intro h
    have := congrArg BitVec.toNat h
    simp only [hexponent] at this
    change (e + 1075).toNat = 0 at this
    omega
  unfold UnpackedFloat.pack
  simp only [hbias, hlog]
  rw [if_neg (by omega), if_pos (by decide)]
  unfold UnpackedFloat.unpack
  simp only [unpackMantissa_packComponents, unpackExponent_packComponents,
    unpackSign_packComponents, if_neg hnotMax, if_neg hnotMin]
  refine UnpackedFloat.finite.congr_simp _ _ rfl _ _ hmantissa _ _ ?_ _
  rw [hexponent]
  change ((e + 1075).toNat : ℤ) - (1023 + 52) = e
  omega

/-- A double that is at least `c` is so still when it was stored. -/
theorem AtLeast.unpack_pack {x : UnpackedFloat} (hpos : 0 < c) (hx : AtLeast c x) :
    AtLeast c (unpack .binary64 (UnpackedFloat.pack .binary64 x)) := by
  cases hx with
  | infinity => exact .infinity
  | @finite m e hm hlow hhigh hc =>
    have hlog : m.log2 = 52 := (Nat.log2_eq_iff (by omega)).mpr ⟨hlow, hhigh⟩
    have hvalue := log2_pos_of_le hpos hc
    rcases lt_or_ge e 972 with hsmall | hlarge
    · rw [unpack_pack_of_normal hm hlow hhigh (by omega) hsmall]
      exact .finite hm hlow hhigh hc
    · unfold UnpackedFloat.pack
      dsimp only
      rw [if_pos (by change 2 ^ 11 ≤ (e + 1023 + 52).toNat + 1; omega)]
      exact .infinity

/-- Neither a NaN nor below zero. -/
inductive Unsigned : UnpackedFloat → Prop
  | infinity : Unsigned (.infinity .positive)
  | zero : Unsigned (.zero .positive)
  | finite {m : ℕ} {e : ℤ} (hm : 0 < m) : Unsigned (.finite .positive m e hm)

/-- What is neither a NaN nor below zero is neither when it was stored. -/
theorem Unsigned.unpack_pack {x : UnpackedFloat} (hx : Unsigned x) :
    Unsigned (unpack .binary64 (UnpackedFloat.pack .binary64 x)) := by
  cases hx with
  | infinity => exact .infinity
  | zero => exact .zero
  | @finite m e hm =>
    have hcomponents : ∀ (exponent : BitVec 11) (mantissa : BitVec 52), exponent ≠ -1#11 →
        Unsigned (unpack .binary64 (packComponents .binary64 .positive exponent mantissa)) := by
      intro exponent mantissa hmax
      unfold UnpackedFloat.unpack
      simp only [unpackMantissa_packComponents, unpackExponent_packComponents,
        unpackSign_packComponents, if_neg hmax]
      split
      · split
        · exact .zero
        · exact .finite _
      · exact .finite _
    unfold UnpackedFloat.pack
    dsimp only
    split
    · exact .infinity
    · next hrange =>
      split
      · refine hcomponents _ _ fun h => ?_
        have := congrArg BitVec.toNat h
        rw [BitVec.toNat_ofNat, Nat.mod_eq_of_lt (by omega)] at this
        change _ = 2047 at this
        omega
      · exact hcomponents _ _ (by decide)

/-! ### Operations -/

variable {x y : UnpackedFloat}

theorem AtLeast.unsigned (hx : AtLeast c x) : Unsigned x := by
  cases hx with
  | infinity => exact .infinity
  | finite hm => exact .finite hm

/-- Adding takes nothing away. -/
theorem AtLeast.add (hpos : 0 < c) (hsmall : c ≤ 2 ^ 53) (hx : AtLeast c x) (hy : Unsigned y) :
    AtLeast c (UnpackedFloat.add .binary64 x y) := by
  cases hx with
  | infinity => cases hy <;> exact .infinity
  | @finite m e hm hlow hhigh hc =>
    cases hy with
    | infinity => exact .infinity
    | zero => exact .finite hm hlow hhigh hc
    | @finite m' e' hm' =>
      set least := min e e' with hleast
      set shifted := m <<< (e - least).toNat with hshifted
      have hvalue : (c : ℚ) ≤ shifted * 2 ^ least :=
        hc.trans_eq (value_align m (min_le_left e e')).symm
      have hsum : (c : ℚ) ≤ (shifted + m' <<< (e' - least).toNat : ℕ) * 2 ^ least := by
        refine hvalue.trans (mul_le_mul_of_nonneg_right ?_ (by positivity))
        exact_mod_cast Nat.le_add_right ..
      have hpositive : (0 : ℤ) < (shifted : ℤ) + (m' <<< (e' - least).toNat : ℕ) := by
        have : 0 < shifted := by
          rw [hshifted, Nat.shiftLeft_eq]
          positivity
        exact_mod_cast Nat.add_pos_left this _
      unfold UnpackedFloat.add decreaseExponent UnpackedFloat.normalize
      simp only [Sign.apply, ← hleast, ← hshifted]
      rw [compare_gt_iff_gt.mpr hpositive]
      exact atLeast_round hpos hsmall hsum

/-- Multiplying by at least one takes nothing away. -/
theorem AtLeast.mul (hpos : 0 < c) (hsmall : c ≤ 2 ^ 53) (hx : AtLeast c x) (hy : AtLeast 1 y) :
    AtLeast c (UnpackedFloat.mul .binary64 x y) := by
  cases hx with
  | infinity => cases hy <;> exact .infinity
  | @finite m e hm hlow hhigh hc =>
    cases hy with
    | infinity => exact .infinity
    | @finite m' e' hm' hlow' hhigh' hone =>
      refine atLeast_roundWithAccuracy hpos hsmall (hlow.trans (Nat.le_mul_of_pos_right m hm')) ?_
      calc (c : ℚ) ≤ m * 2 ^ e := hc
        _ = m * 2 ^ e * 1 := (mul_one _).symm
        _ ≤ m * 2 ^ e * (m' * 2 ^ e') :=
          mul_le_mul_of_nonneg_left (by simpa using hone) (by positivity)
        _ = (m * m' : ℕ) * 2 ^ (e + e') := by
          rw [zpow_add₀ (by norm_num)]
          push_cast
          ring

theorem Unsigned.mul (hx : Unsigned x) {m' : ℕ} {e' : ℤ} (hm' : 0 < m') :
    Unsigned (UnpackedFloat.mul .binary64 x (.finite .positive m' e' hm')) := by
  cases hx with
  | infinity => exact .infinity
  | zero => exact .zero
  | finite hm =>
    unfold UnpackedFloat.mul roundWithAccuracy
    dsimp only
    split
    · exact .zero
    · exact .finite _

/-- A double that is at least `c` is at least `c` as a word too, if a word can be. -/
theorem AtLeast.le_toUInt64 (hword : c < 2 ^ 64) (hx : AtLeast c x) : c ≤ x.toUInt64.toNat := by
  have hclamp : ∀ n : ℕ, c ≤ n → c ≤ (UInt64.ofNatClamp n).toNat := by
    intro n hn
    unfold UInt64.ofNatClamp
    split
    · exact hn
    · exact Nat.le_sub_one_of_lt hword
  refine hclamp _ ?_
  cases hx with
  | infinity => exact Nat.le_sub_one_of_lt hword
  | @finite m e hm hlow hhigh hc =>
    have hexponent : e - (e - 0).toNat + ((0 - (e - (e - 0).toNat)).toNat : ℕ) = 0 := by omega
    have hcut := le_cut (e := e - (e - 0).toNat) (k := (0 - (e - (e - 0).toNat)).toNat)
      hexponent.le ((value_shiftLeft m (e - 0).toNat e).symm ▸ hc)
    rw [hexponent, zpow_zero, mul_one, ← mantissa_shiftRight ⟨_, false, false⟩] at hcut
    exact_mod_cast hcut

/-! ### Numbers -/

/-- A double in the place where it is stored. -/
theorem atLeast_ofUInt64 (hpos : 0 < c) (hsmall : c ≤ 2 ^ 53) {n : UInt64} (hn : c ≤ n.toNat) :
    AtLeast c n.toFloat.toModel.unpack := by
  refine AtLeast.unpack_pack hpos ?_
  have hpositive : (0 : ℤ) < n.toNat := by omega
  unfold UnpackedFloat.ofUInt64 UnpackedFloat.ofNat UnpackedFloat.ofInt UnpackedFloat.normalize
  rw [compare_gt_iff_gt.mpr hpositive]
  refine atLeast_round hpos hsmall ?_
  rw [zpow_zero, mul_one]
  exact_mod_cast hn

/-- The double nearest to a number is at least `c` if the number is. -/
theorem atLeast_ofNat (hpos : 0 < c) (hsmall : c ≤ 2 ^ 53) {n : ℕ} (hn : c ≤ n) :
    AtLeast c (Float.ofNat n).toModel.unpack := by
  change AtLeast c (Float.ofScientific n false 0).toModel.unpack
  unfold Float.ofScientific
  split
  · next hshort =>
    have hword : n.toUInt64.toNat = n := Nat.mod_eq_of_lt (by omega)
    have hone : AtLeast 1 Float.exactlyRepresentablePowersOfTen[0].toModel.unpack :=
      .finite (m := 2 ^ 52) (e := -52) (by decide) le_rfl (by norm_num) (by norm_num)
    exact (atLeast_ofUInt64 hpos hsmall (hword.symm ▸ hn)).mul hpos hsmall hone
      |>.unpack_pack hpos
  · next hlong =>
    have hn0 : n ≠ 0 := by omega
    refine AtLeast.unpack_pack hpos (x := UnpackedFloat.ofScientific .binary64 n 0) ?_
    have hbits : (2 : ℤ) ^ Format.binary64.exponentBits = 2048 := by decide
    unfold UnpackedFloat.ofScientific UnpackedFloat.mul
    rw [dif_neg hn0, if_neg (by decide), if_neg (by rw [hbits]; omega), if_pos le_rfl]
    refine atLeast_roundWithAccuracy hpos hsmall ?_ ?_
    · rw [Int.toNat_zero, pow_zero, mul_one, Nat.shiftLeft_eq]
      exact (Nat.le_of_not_lt fun h => hlong ⟨by omega, by decide⟩).trans
        (Nat.le_mul_of_pos_right n (by positivity))
    · rw [Int.toNat_zero, pow_zero, mul_one, add_zero, ← zero_sub, value_shiftLeft, zpow_zero,
        mul_one]
      exact_mod_cast hn

/-! ### Schedules -/

namespace BackoffConfig

variable (initial ceiling : Duration) {n : ℕ}

/-- **A delay is no shorter than its interval.** -/
theorem le_delay (hpos : 0 < c) (hsmall : c ≤ 2 ^ 53) (hn : c ≤ n) :
    c ≤ (bounded initial ceiling).growth.delay n := by
  have hbase : AtLeast c (Float.ofNat n).toModel.unpack := atLeast_ofNat hpos hsmall hn
  have htenth : ∃ m e, ∃ hm : 0 < m, (0.1 : Float).toModel.unpack = .finite .positive m e hm :=
    ⟨_, _, _, rfl⟩
  have hhalf : ∃ m e, ∃ hm : 0 < m, (0.5 : Float).toModel.unpack = .finite .positive m e hm :=
    ⟨_, _, _, rfl⟩
  obtain ⟨_, _, htenth, heq⟩ := htenth
  obtain ⟨_, _, hhalf, heq'⟩ := hhalf
  have hjitter : Unsigned (Float.ofNat n * 0.1 * 0.5).toModel.unpack := by
    refine Unsigned.unpack_pack (heq' ▸ Unsigned.mul ?_ hhalf)
    exact Unsigned.unpack_pack (heq ▸ hbase.unsigned.mul htenth)
  have hsum : AtLeast c (Float.ofNat n + Float.ofNat n * 0.1 * 0.5).toModel.unpack :=
    (hbase.add hpos hsmall hjitter).unpack_pack hpos
  exact hsum.le_toUInt64 (by omega)

theorem atLeast_smaller {a b : Float} (ha : AtLeast c a.toModel.unpack)
    (hb : AtLeast c b.toModel.unpack) : AtLeast c (smaller a b).toModel.unpack := by
  unfold smaller
  split
  · exact hb
  · split
    · exact ha
    · split
      · exact ha
      · exact hb

/-- **The next interval is no shorter**, up to the longest there is. -/
theorem le_next (hpos : 0 < c) (hmax : c ≤ 10000) (hn : c ≤ n) :
    c ≤ (bounded initial ceiling).growth.next n := by
  have hsmall : c ≤ 2 ^ 53 := hmax.trans (by decide)
  have htwo : AtLeast 1 (2.0 : Float).toModel.unpack :=
    .finite (m := 2 ^ 52) (e := -51) (by decide) le_rfl (by norm_num) (by norm_num)
  have hdouble : AtLeast c (Float.ofNat n * 2.0).toModel.unpack :=
    ((atLeast_ofNat hpos hsmall hn).mul hpos hsmall htwo).unpack_pack hpos
  have hmillis : (Duration.ofSeconds 10).millis = 10000 := by decide
  have hlongest : AtLeast c (Float.ofNat (Duration.ofSeconds 10).millis).toModel.unpack :=
    atLeast_ofNat hpos hsmall (hmillis.symm ▸ hmax)
  exact (atLeast_smaller hdouble hlongest).le_toUInt64 (by omega)

end BackoffConfig

end FeedLink
