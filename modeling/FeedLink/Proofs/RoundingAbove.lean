import FeedLink.Proofs.Rounding

/-!
# Doubles do not rise above halves of whole numbers

The other half of what a schedule needs to know of doubles. A delay is an interval and a part of it,
half of it at most, so that what bounds a delay from above is a whole number or the half of one.
Such a bound, of fewer than 53 bits, lies on every grid on which a smaller result is rounded: a
result whose exact value does not exceed it does not exceed it after it was rounded.

This is where rounding to the nearest grid point matters, and not only to one of the two around. A
result on the grid already must stay where it is, and `shiftRight_of_dvd` says that it does.

## Main definitions

* `AtMost` — a double is not below zero, and at most so many halves
* `Negative` — a double is below zero

## Main results

* `atMost_roundWithAccuracy` — rounding does not rise above a number of halves
* `AtMost.unpack_pack` — neither does storing a double
* `AtMost.add`, `AtMost.mul`, `atMost_ofNat`, `AtMost.toUInt64_le`, `AtMost.of_le`
* `BackoffConfig.delay_le_three_halves`, `BackoffConfig.delay_le_of_no_jitter`,
  `BackoffConfig.self_le_delay`, `BackoffConfig.next_le_maxInterval`
-/

namespace FeedLink

open Float.Model Float.Model.UnpackedFloat

variable {a b c k m : ℕ} {e : ℤ}

/-! ### Mantissas -/

/-- Cutting off zeros loses nothing, and leaves no trace. -/
theorem shiftRight_of_dvd (h : 2 ^ k ∣ m) :
    (⟨m, false, false⟩ : ExtendedMantissa) >>> k = ⟨m / 2 ^ k, false, false⟩ := by
  change Nat.repeat ExtendedMantissa.shiftRightOne k _ = _
  induction k with
  | zero => simp [Nat.repeat]
  | succ k ih =>
    obtain ⟨n, rfl⟩ := h
    have hk : 2 ^ (k + 1) * n / 2 ^ k = n * 2 := by
      rw [Nat.pow_succ, Nat.mul_assoc, Nat.mul_div_cancel_left _ (by positivity), Nat.mul_comm]
    rw [Nat.repeat, ih ⟨2 * n, by ring⟩, ExtendedMantissa.shiftRightOne, hk]
    simp

/-- A mantissa that is cut does not exceed a number that it does not exceed before. -/
theorem roundedMantissa_le {n : ℕ} (h : m ≤ n * 2 ^ k) :
    ((⟨m, false, false⟩ : ExtendedMantissa) >>> k).roundedMantissa ≤ n := by
  rcases h.eq_or_lt with rfl | hlt
  · rw [shiftRight_of_dvd (Nat.dvd_mul_left ..), Nat.mul_div_cancel _ (by positivity)]
    exact Nat.le_refl _
  · have hup := (roundedMantissa_bounds ((⟨m, false, false⟩ : ExtendedMantissa) >>> k)).2
    rw [mantissa_shiftRight] at hup
    exact hup.trans (Nat.div_lt_of_lt_mul (Nat.mul_comm n _ ▸ hlt))

/-! ### Rounding -/

/-- A double that is not below zero, and at most so many halves: a zero, or one that is no finer
than doubles are. -/
inductive AtMost (c : ℕ) : UnpackedFloat → Prop
  | zero {sign : Sign} : AtMost c (.zero sign)
  | finite {m : ℕ} {e : ℤ} (hm : 0 < m) (low : -1074 ≤ e) (le : (m : ℚ) * 2 ^ e ≤ c / 2) :
      AtMost c (.finite .positive m e hm)

theorem targetExponent_eq_max (m : ℕ) (e : ℤ) :
    Format.binary64.targetExponent (totalExponent m e) = max (m.log2 + e - 52) (-1074) := by
  have hmin : Format.binary64.minExponent = -1074 := by decide
  have hbits : (Format.binary64.mantissaBits : ℤ) = 53 := by decide
  simp only [Format.targetExponent, totalExponent, hmin, hbits]
  omega

/-- What is below `2 ^ 52` is rounded on a grid finer than one. -/
theorem log2_add_lt (hm : m ≠ 0) (hsmall : c < 2 ^ 53) (hc : (m : ℚ) * 2 ^ e ≤ c / 2) :
    (m.log2 : ℤ) + e < 52 := by
  have hlog : (2 : ℚ) ^ m.log2 ≤ m := by exact_mod_cast Nat.log2_self_le hm
  have hlt : (2 : ℚ) ^ ((m.log2 : ℤ) + e) < 2 ^ (52 : ℤ) := by
    calc (2 : ℚ) ^ ((m.log2 : ℤ) + e) = 2 ^ m.log2 * 2 ^ e := by
          rw [zpow_add₀ (by norm_num), zpow_natCast]
      _ ≤ m * 2 ^ e := mul_le_mul_of_nonneg_right hlog (by positivity)
      _ ≤ c / 2 := hc
      _ < 2 ^ 53 / 2 := div_lt_div_of_pos_right (by exact_mod_cast hsmall) (by norm_num)
      _ = 2 ^ (52 : ℤ) := by norm_num
  exact (zpow_lt_zpow_iff_right₀ (by norm_num)).mp hlt

/-- Half a whole number is a whole number of any finer power of two. -/
theorem exists_grid (c : ℕ) (he : e < 0) : ∃ n : ℕ, (c : ℚ) / 2 = n * 2 ^ e := by
  obtain ⟨t, ht⟩ := Int.eq_ofNat_of_zero_le (show 0 ≤ -e - 1 by omega)
  refine ⟨c * 2 ^ t, ?_⟩
  rw [show e = -((t + 1 : ℕ) : ℤ) by push_cast; omega, zpow_neg, zpow_natCast, pow_succ]
  push_cast
  field_simp

/-- The mantissa that rounding leaves at first, which may still have a bit too many. -/
theorem roundedMantissa_mul_le (hsmall : c < 2 ^ 53) (hc : (m : ℚ) * 2 ^ e ≤ c / 2)
    (hk : k = (Format.binary64.targetExponent (totalExponent m e) - e).toNat) :
    (((⟨m, false, false⟩ : ExtendedMantissa) >>> k).roundedMantissa : ℚ) * 2 ^ (e + k) ≤ c / 2 := by
  rcases Nat.eq_zero_or_pos k with rfl | hpos
  · -- nothing is cut
    rw [Nat.cast_zero, add_zero]
    exact hc
  · have hgrid : e + k < 0 := by
      rw [targetExponent_eq_max] at hk
      rcases Nat.eq_zero_or_pos m with rfl | hm
      · rw [Nat.log2_zero] at hk
        omega
      · have := log2_add_lt hm.ne' hsmall hc
        omega
    obtain ⟨n, hn⟩ := exists_grid c hgrid
    rw [hn] at hc ⊢
    have hle : m ≤ n * 2 ^ k := by
      rw [zpow_add₀ (by norm_num), mul_comm ((2 : ℚ) ^ e), ← mul_assoc, zpow_natCast] at hc
      exact_mod_cast le_of_mul_le_mul_right hc (by positivity)
    exact mul_le_mul_of_nonneg_right (by exact_mod_cast roundedMantissa_le hle) (by positivity)

/-- **Rounding does not rise above a number of halves** that the exact value does not exceed. -/
theorem atMost_roundWithAccuracy (hsmall : c < 2 ^ 53) (hc : (m : ℚ) * 2 ^ e ≤ c / 2) :
    AtMost c (roundWithAccuracy .binary64 .positive m e .exact) := by
  unfold roundWithAccuracy shiftToTargetExponent shiftToExponent
  dsimp only [ExtendedMantissa.ofMantissaAndAccuracy]
  set k := (Format.binary64.targetExponent (totalExponent m e) - e).toNat with hk
  have hround := roundedMantissa_mul_le hsmall hc hk
  have hlow : -1074 ≤ e + k := by
    rw [targetExponent_eq_max] at hk
    omega
  set r := ((⟨m, false, false⟩ : ExtendedMantissa) >>> k).roundedMantissa
  set k' := (Format.binary64.targetExponent (totalExponent r (e + k)) - (e + k)).toNat
  split
  · exact .zero
  · refine .finite _ (by omega) (le_trans ?_ hround)
    rw [mantissa_shiftRight, zpow_add₀ (by norm_num), zpow_natCast, mul_comm ((2 : ℚ) ^ (e + k)),
      ← mul_assoc]
    refine mul_le_mul_of_nonneg_right ?_ (by positivity)
    exact_mod_cast Nat.div_mul_le_self r (2 ^ k')

/-- So it is when the mantissa is shifted up before it is rounded. -/
theorem atMost_round (hsmall : c < 2 ^ 53) (hc : (m : ℚ) * 2 ^ e ≤ c / 2) :
    AtMost c (UnpackedFloat.round .binary64 .positive m e) := by
  unfold UnpackedFloat.round decreaseExponent
  exact atMost_roundWithAccuracy hsmall ((value_shiftLeft m _ e).symm ▸ hc)

/-! ### Packing -/

/-- A double that is at most `c` halves is so still when it was stored. -/
theorem AtMost.unpack_pack {x : UnpackedFloat} (hsmall : c < 2 ^ 53) (hx : AtMost c x) :
    AtMost c (unpack .binary64 (UnpackedFloat.pack .binary64 x)) := by
  cases hx with
  | @zero sign => cases sign <;> exact .zero
  | @finite m e hm hlow hc =>
    have hvalue := log2_add_lt hm.ne' hsmall hc
    by_cases hlog : m.log2 = 52
    · obtain ⟨hdown, hup⟩ := (Nat.log2_eq_iff hm.ne').mp hlog
      rw [unpack_pack_of_normal hm hdown hup hlow (by omega)]
      exact .finite hm hlow hc
    · -- a mantissa with fewer bits is stored at the lowest exponent there is
      unfold UnpackedFloat.pack
      dsimp only
      rw [if_neg (by change ¬2 ^ 11 ≤ (e + 1023 + 52).toNat + 1; omega),
        if_neg (by change ¬m.log2 + 1 = 53; omega)]
      unfold UnpackedFloat.unpack
      simp only [unpackMantissa_packComponents, unpackExponent_packComponents,
        unpackSign_packComponents, if_neg (show ¬(0#11 = -1#11) by decide)]
      rw [if_pos trivial]
      split
      · exact .zero
      · refine .finite _ (by decide) (le_trans ?_ hc)
        rw [BitVec.toNat_ofNat]
        refine mul_le_mul ?_ (zpow_le_zpow_right₀ (by norm_num) ?_) (by positivity) (by positivity)
        · exact_mod_cast Nat.mod_le m (2 ^ 52)
        · exact hlow

/-! ### Operations -/

variable {x y : UnpackedFloat}

theorem AtMost.mono (hx : AtMost a x) (h : a ≤ c) : AtMost c x := by
  cases hx with
  | zero => exact .zero
  | finite hm hlow hc =>
    exact .finite hm hlow (hc.trans (div_le_div_of_nonneg_right (by exact_mod_cast h) (by norm_num)))

/-- A sum is at most the sum of what its parts are at most. -/
theorem AtMost.add (hsmall : a + b < 2 ^ 53) (hx : AtMost a x) (hy : AtMost b y) :
    AtMost (a + b) (UnpackedFloat.add .binary64 x y) := by
  cases hx with
  | @zero sign =>
    cases hy with
    | @zero sign' => cases sign <;> cases sign' <;> exact .zero
    | finite hm hlow hc => exact (AtMost.finite hm hlow hc).mono (Nat.le_add_left ..)
  | @finite m e hm hlow hc =>
    cases hy with
    | zero => exact (AtMost.finite hm hlow hc).mono (Nat.le_add_right ..)
    | @finite m' e' hm' hlow' hc' =>
      set least := min e e' with hleast
      set shifted := m <<< (e - least).toNat with hshifted
      set shifted' := m' <<< (e' - least).toNat with hshifted'
      have hsum : ((shifted + shifted' : ℕ) : ℚ) * 2 ^ least ≤ (a + b : ℕ) / 2 := by
        have hleft : (shifted : ℚ) * 2 ^ least = m * 2 ^ e := value_align m (min_le_left e e')
        have hright : (shifted' : ℚ) * 2 ^ least = m' * 2 ^ e' := value_align m' (min_le_right e e')
        push_cast
        rw [add_mul, hleft, hright, add_div]
        exact add_le_add hc hc'
      have hpositive : (0 : ℤ) < (shifted : ℤ) + (shifted' : ℤ) := by
        have : 0 < shifted := by
          rw [hshifted, Nat.shiftLeft_eq]
          positivity
        exact_mod_cast Nat.add_pos_left this _
      unfold UnpackedFloat.add decreaseExponent UnpackedFloat.normalize
      simp only [Sign.apply, ← hleast, ← hshifted, ← hshifted']
      rw [compare_gt_iff_gt.mpr hpositive]
      exact atMost_round hsmall hsum

/-- A product is at most the product of what its factors are at most: a quarter of it, in halves. -/
theorem AtMost.mul (hsmall : c < 2 ^ 53) (hab : a * b ≤ 2 * c) (hx : AtMost a x)
    (hy : AtMost b y) : AtMost c (UnpackedFloat.mul .binary64 x y) := by
  cases hx with
  | zero => cases hy <;> exact .zero
  | @finite m e hm hlow hc =>
    cases hy with
    | zero => exact .zero
    | @finite m' e' hm' hlow' hc' =>
      refine atMost_roundWithAccuracy hsmall ?_
      calc ((m * m' : ℕ) : ℚ) * 2 ^ (e + e') = m * 2 ^ e * (m' * 2 ^ e') := by
            rw [zpow_add₀ (by norm_num)]
            push_cast
            ring
        _ ≤ a / 2 * (b / 2) := mul_le_mul hc hc' (by positivity) (by positivity)
        _ = (a * b : ℕ) / 4 := by
            push_cast
            ring
        _ ≤ (2 * c : ℕ) / 4 := div_le_div_of_nonneg_right (by exact_mod_cast hab) (by norm_num)
        _ = c / 2 := by
            push_cast
            ring

/-! ### Words -/

theorem toNat_ofNatClamp_le (n : ℕ) : (UInt64.ofNatClamp n).toNat ≤ n := by
  unfold UInt64.ofNatClamp
  split
  · exact Nat.le_refl _
  · next h => exact Nat.le_of_not_lt fun hlt => h (hlt.trans_le (Nat.sub_le ..))

/-- As a word, a double loses what is behind the point. -/
theorem toUInt64_finite_le (hm : 0 < m) (hc : (m : ℚ) * 2 ^ e ≤ c / 2) :
    2 * (UnpackedFloat.finite .positive m e hm).toUInt64.toNat ≤ c := by
  refine (Nat.mul_le_mul_left 2 (toNat_ofNatClamp_le _)).trans ?_
  have hexponent : e - (e - 0).toNat + ((0 - (e - (e - 0).toNat)).toNat : ℕ) = 0 := by omega
  set k := (0 - (e - (e - 0).toNat)).toNat with hk
  set shifted := m <<< (e - 0).toNat with hshifted
  have hcut : ((shifted / 2 ^ k : ℕ) : ℚ) ≤ c / 2 := by
    calc ((shifted / 2 ^ k : ℕ) : ℚ) = (shifted / 2 ^ k : ℕ) * 2 ^ (e - (e - 0).toNat + k) := by
          rw [hexponent, zpow_zero, mul_one]
      _ = ((shifted / 2 ^ k * 2 ^ k : ℕ) : ℚ) * 2 ^ (e - (e - 0).toNat) := by
          rw [zpow_add₀ (by norm_num), zpow_natCast]
          push_cast
          ring
      _ ≤ shifted * 2 ^ (e - (e - 0).toNat) :=
          mul_le_mul_of_nonneg_right (by exact_mod_cast Nat.div_mul_le_self ..) (by positivity)
      _ = m * 2 ^ e := value_shiftLeft m _ e
      _ ≤ c / 2 := hc
  have htwice : ((2 * (shifted / 2 ^ k) : ℕ) : ℚ) ≤ c := by
    push_cast
    linarith
  rw [← mantissa_shiftRight ⟨shifted, false, false⟩] at htwice
  exact_mod_cast htwice

/-- A double that is at most `c` halves is so as a word too. -/
theorem AtMost.toUInt64_le (hx : AtMost c x) : 2 * x.toUInt64.toNat ≤ c := by
  cases hx with
  | zero => exact Nat.zero_le _
  | finite hm _ hc => exact toUInt64_finite_le hm hc

/-! ### Comparing -/

/-- The shape of what was stored: a mantissa has all its bits, unless the exponent is the lowest
there is. -/
theorem shape_of_unpack {bits : BitVec 64} {sign : Sign} {hm : 0 < m}
    (h : unpack .binary64 bits = .finite sign m e hm) :
    m < 2 ^ 53 ∧ -1074 ≤ e ∧ (2 ^ 52 ≤ m ∨ e = -1074) := by
  unfold UnpackedFloat.unpack at h
  dsimp only at h
  split at h
  · split at h <;> contradiction
  · split at h
    · next hzero =>
      split at h
      · contradiction
      · obtain ⟨-, hmantissa, hexponent⟩ := UnpackedFloat.finite.inj h
        have hlt := (@unpackMantissa .binary64 bits).isLt
        change _ < 2 ^ 52 at hlt
        rw [hzero] at hexponent
        change -1074 = e at hexponent
        omega
    · next hmax hzero =>
      obtain ⟨-, hmantissa, hexponent⟩ := UnpackedFloat.finite.inj h
      have hlt := (@unpackMantissa .binary64 bits).isLt
      change _ < 2 ^ 52 at hlt
      have hbits := toNat_one_append (@unpackMantissa .binary64 bits)
      change (@unpackExponent .binary64 bits).toNat - (1023 + 52 : ℤ) = e at hexponent
      have hpos : 0 < (@unpackExponent .binary64 bits).toNat :=
        Nat.pos_of_ne_zero fun h => hzero (BitVec.eq_of_toNat_eq h)
      have hm : 2 ^ 52 + (@unpackMantissa .binary64 bits).toNat = m :=
        hbits.symm.trans hmantissa
      omega

/-- Of two doubles that were stored, the smaller one has the smaller value. -/
theorem value_le_of_compare {m' : ℕ} {e' : ℤ} (hm : m < 2 ^ 53) (hlow : -1074 ≤ e)
    (hshape : 2 ^ 52 ≤ m' ∨ e' = -1074)
    (h : ((compare e e').then (compare m m')).isLE) : (m : ℚ) * 2 ^ e ≤ m' * 2 ^ e' := by
  rcases lt_trichotomy e e' with hlt | rfl | hgt
  · -- the other one has an exponent above the lowest, and so a mantissa with all its bits
    have hfull : 2 ^ 53 ≤ m' * 2 := by omega
    calc (m : ℚ) * 2 ^ e ≤ (m' * 2) * 2 ^ e :=
          mul_le_mul_of_nonneg_right (by exact_mod_cast hm.le.trans hfull) (by positivity)
      _ = m' * 2 ^ (e + 1) := by
          rw [zpow_add_one₀ (by norm_num)]
          ring
      _ ≤ m' * 2 ^ e' :=
          mul_le_mul_of_nonneg_left (zpow_le_zpow_right₀ (by norm_num) hlt) (by positivity)
  · have hle : m ≤ m' := by simpa [Nat.isLE_compare] using h
    exact mul_le_mul_of_nonneg_right (by exact_mod_cast hle) (by positivity)
  · rw [compare_gt_iff_gt.mpr hgt] at h
    contradiction

/-- Below zero. -/
inductive Negative : UnpackedFloat → Prop
  | infinity : Negative (.infinity .negative)
  | finite {m : ℕ} {e : ℤ} (hm : 0 < m) : Negative (.finite .negative m e hm)

/-- As a word, what is below zero is zero. -/
theorem Negative.toUInt64_eq (hx : Negative x) : x.toUInt64.toNat = 0 := by
  cases hx with
  | infinity => rfl
  | finite => exact Nat.le_zero.mp ((toNat_ofNatClamp_le _).trans_eq (Int.toNat_neg_natCast _))

variable {p q : Float}

/-- **What does not exceed a double that is at most `c` halves** is at most so many, or below
zero. -/
theorem AtMost.of_le (hq : AtMost c q.toModel.unpack) (hle : p ≤ q) :
    AtMost c p.toModel.unpack ∨ Negative p.toModel.unpack := by
  have hcompare : (p.toModel.unpack.compare q.toModel.unpack).any (·.isLE) :=
    of_decide_eq_true hle
  cases hx : p.toModel.unpack with
  | notANumber => rw [hx] at hcompare; contradiction
  | zero => exact .inl .zero
  | infinity sign =>
    cases sign with
    | negative => exact .inr .infinity
    | positive =>
      rw [hx] at hcompare
      generalize q.toModel.unpack = y at hq hcompare
      cases hq <;> contradiction
  | finite sign m e hm =>
    cases sign with
    | negative => exact .inr (.finite hm)
    | positive =>
      obtain ⟨hhigh, hlow, -⟩ := shape_of_unpack hx
      rw [hx] at hcompare
      cases hy : q.toModel.unpack with
      | notANumber | infinity => rw [hy] at hq; cases hq
      | zero => rw [hy] at hcompare; contradiction
      | finite sign' m' e' hm' =>
        obtain ⟨-, -, hshape⟩ := shape_of_unpack hy
        rw [hy] at hcompare hq
        cases hq with
        | finite _ _ hc =>
          exact .inl (.finite hm hlow ((value_le_of_compare hhigh hlow hshape hcompare).trans hc))

theorem AtMost.toUInt64_le_of_le (hq : AtMost c q.toModel.unpack) (hle : p ≤ q) :
    2 * p.toModel.unpack.toUInt64.toNat ≤ c := by
  rcases hq.of_le hle with hp | hp
  · exact hp.toUInt64_le
  · rw [hp.toUInt64_eq]
    exact Nat.zero_le _

theorem AtMost.of_le_of_nonneg (hq : AtMost c q.toModel.unpack) (hle : p ≤ q) (hpos : 0.0 ≤ p) :
    AtMost c p.toModel.unpack := by
  refine (hq.of_le hle).resolve_right fun hnegative => ?_
  have hcompare : ((0.0 : Float).toModel.unpack.compare p.toModel.unpack).any (·.isLE) :=
    of_decide_eq_true hpos
  rw [show (0.0 : Float).toModel.unpack = .zero .positive from rfl] at hcompare
  generalize p.toModel.unpack = x at hnegative hcompare
  cases hnegative <;> contradiction

/-! ### Numbers -/

theorem atMost_zero : AtMost 0 (0.0 : Float).toModel.unpack := .zero

theorem atMost_one : AtMost 2 (1.0 : Float).toModel.unpack :=
  .finite (m := 2 ^ 52) (e := -52) (by decide) (by decide) (by norm_num)

theorem atMost_half : AtMost 1 (0.5 : Float).toModel.unpack :=
  .finite (m := 2 ^ 52) (e := -53) (by decide) (by decide) (by norm_num)

/-- The double nearest to a number is at most that number, if it has fewer than 53 bits. -/
theorem atMost_ofNat {n : ℕ} (hn : 2 * n < 2 ^ 53) :
    AtMost (2 * n) (Float.ofNat n).toModel.unpack := by
  change AtMost (2 * n) (Float.ofScientific n false 0).toModel.unpack
  unfold Float.ofScientific
  rw [dif_pos ⟨by omega, by decide⟩]
  have hword : n.toUInt64.toNat = n := Nat.mod_eq_of_lt (by omega)
  have hnumber : AtMost (2 * n) n.toUInt64.toFloat.toModel.unpack := by
    refine AtMost.unpack_pack hn ?_
    unfold UnpackedFloat.ofUInt64 UnpackedFloat.ofNat UnpackedFloat.ofInt UnpackedFloat.normalize
    rw [hword]
    rcases Nat.eq_zero_or_pos n with rfl | hpos
    · exact .zero
    · have hpositive : (0 : ℤ) < (n : ℕ) := by exact_mod_cast hpos
      rw [compare_gt_iff_gt.mpr hpositive]
      refine atMost_round hn ?_
      push_cast
      norm_num
  exact (hnumber.mul hn (by omega) atMost_one).unpack_pack hn

/-! ### Schedules -/

theorem float_le_of_lt (h : p < q) : p ≤ q := by
  have hless : p.toModel.unpack.compare q.toModel.unpack = some .lt :=
    eq_of_beq (of_decide_eq_true h)
  refine decide_eq_true (?_ : (p.toModel.unpack.compare q.toModel.unpack).any (·.isLE))
  rw [hless]
  rfl

/-- Adding something that is not below zero takes nothing away. -/
theorem AtLeast.add_atMost (hpos : 0 < a) (hsmall : a ≤ 2 ^ 53) (hx : AtLeast a x)
    (hy : AtMost c y) : AtLeast a (UnpackedFloat.add .binary64 x y) := by
  cases hy with
  | finite hm => exact hx.add hpos hsmall (.finite hm)
  | zero =>
    cases hx with
    | infinity => exact .infinity
    | finite hm hlow hhigh hc => exact .finite hm hlow hhigh hc

namespace BackoffConfig

variable {config : BackoffConfig} {j d n : ℕ}

/-- What the jitter adds to an interval: half of its part, which is `j` halves at most. -/
theorem atMost_added (hj : AtMost j config.jitter.toModel.unpack) (hd : j * n ≤ 2 * d)
    (hpart : j * n < 2 ^ 53) (hsum : 2 * n + d < 2 ^ 53) :
    AtMost d (Float.ofNat n * config.jitter * 0.5).toModel.unpack := by
  have hn : 2 * n < 2 ^ 53 := by omega
  have hproduct : AtMost (j * n) (Float.ofNat n * config.jitter).toModel.unpack :=
    ((atMost_ofNat hn).mul hpart (by rw [Nat.mul_comm j, Nat.mul_assoc]) hj).unpack_pack hpart
  exact (hproduct.mul (by omega) (by omega) atMost_half).unpack_pack (by omega)

/-- A delay is at most its interval and what the jitter adds. -/
theorem two_mul_delay_le (hj : AtMost j config.jitter.toModel.unpack) (hd : j * n ≤ 2 * d)
    (hpart : j * n < 2 ^ 53) (hsum : 2 * n + d < 2 ^ 53) :
    2 * config.growth.delay n ≤ 2 * n + d := by
  have hdelay : AtMost (2 * n + d)
      (Float.ofNat n + Float.ofNat n * config.jitter * 0.5).toModel.unpack :=
    ((atMost_ofNat (by omega)).add hsum (atMost_added hj hd hpart hsum)).unpack_pack hsum
  exact hdelay.toUInt64_le

/-- **A delay is at most one and a half intervals.** -/
theorem delay_le_three_halves (hlow : 0.0 ≤ config.jitter) (hhigh : config.jitter ≤ 1.0)
    (hn : 3 * n < 2 ^ 53) : 2 * config.growth.delay n ≤ 3 * n := by
  have hj := atMost_one.of_le_of_nonneg hhigh hlow
  have hdelay := two_mul_delay_le (n := n) (d := n) hj (Nat.le_refl _) (by omega) (by omega)
  omega

/-- **Without jitter a delay is no longer than its interval.** -/
theorem delay_le_of_no_jitter (hlow : 0.0 ≤ config.jitter) (hhigh : config.jitter ≤ 0.0)
    (hn : 2 * n < 2 ^ 53) : config.growth.delay n ≤ n := by
  have hj := atMost_zero.of_le_of_nonneg hhigh hlow
  have hdelay := two_mul_delay_le (n := n) (d := 0) hj (by omega) (by omega) (by omega)
  omega

/-- **A delay is no shorter than its interval.** -/
theorem self_le_delay (hlow : 0.0 ≤ config.jitter) (hhigh : config.jitter ≤ 1.0)
    (hn : 3 * n < 2 ^ 53) : n ≤ config.growth.delay n := by
  rcases Nat.eq_zero_or_pos n with rfl | hpos
  · exact Nat.zero_le _
  · have hj := atMost_one.of_le_of_nonneg hhigh hlow
    have hadded := atMost_added (n := n) (d := n) hj (Nat.le_refl _) (by omega) (by omega)
    have hbase : AtLeast n (Float.ofNat n).toModel.unpack :=
      atLeast_ofNat hpos (by omega) (Nat.le_refl _)
    have hdelay : AtLeast n (Float.ofNat n + Float.ofNat n * config.jitter * 0.5).toModel.unpack :=
      (hbase.add_atMost hpos (by omega) hadded).unpack_pack hpos
    exact hdelay.le_toUInt64 (by omega)

/-- The smaller of two doubles is at most what the second one is at most. -/
theorem toUInt64_smaller_le (hq : AtMost c q.toModel.unpack) :
    2 * (smaller p q).toModel.unpack.toUInt64.toNat ≤ c := by
  have hnumber : q.isNaN = false := by
    change q.toModel.unpack.isNaN = false
    generalize q.toModel.unpack = y at hq
    cases hq <;> rfl
  unfold smaller
  rw [hnumber, if_neg Bool.false_ne_true]
  split
  · exact hq.toUInt64_le
  · split
    · next hless => exact hq.toUInt64_le_of_le (float_le_of_lt hless)
    · exact hq.toUInt64_le

/-- **No interval after the first is longer than the longest.** -/
theorem next_le_maxInterval (n : ℕ) (hmax : 2 * config.maxInterval.millis < 2 ^ 53) :
    config.growth.next n ≤ config.maxInterval.millis :=
  Nat.le_of_mul_le_mul_left (toUInt64_smaller_le (atMost_ofNat hmax)) (by decide)

end BackoffConfig

end FeedLink
