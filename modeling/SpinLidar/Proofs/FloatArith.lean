import SpinLidar.Proofs.Rounding

namespace SpinLidar.Rounding

open Float.Model UnpackedFloat

theorem canonical_finiteOrZero {s : Sign} {q : Nat} {t : Int} (hq : q < 2 ^ 53) (ht : -1074 ≤ t)
    (ht' : t ≤ 971) (hnorm : t = -1074 ∨ 2 ^ 52 ≤ q) : Canonical (finiteOrZero s q t) := by
  unfold finiteOrZero
  split_ifs with h0
  · trivial
  · refine ⟨?_, ht'⟩
    have hlog : q.log2 < 53 := (Nat.log2_lt h0).2 hq
    rcases hnorm with rfl | hnorm
    · unfold target
      omega
    · have : 52 ≤ q.log2 := (Nat.le_log2 h0).2 hnorm
      unfold target
      omega

theorem two_pow_le_rne {m : Nat} {e : Int} (hm : 0 < m) (he : e ≤ target m e)
    (ht : -1074 < target m e) : 2 ^ 52 ≤ rne ((m : ℚ) / 2 ^ (target m e - e).toNat) := by
  have hk : (((target m e - e).toNat : Nat) : Int) = m.log2 - 52 := by
    unfold target at ht he ⊢
    omega
  have hlo : 2 ^ (52 + (target m e - e).toNat) ≤ m := by
    have := Nat.log2_self_le hm.ne'
    exact (Nat.pow_le_pow_right (by norm_num) (by omega)).trans this
  apply le_rne
  rw [le_div_iff₀ (by positivity)]
  have : ((2 ^ (52 + (target m e - e).toNat) : Nat) : ℚ) ≤ m := by exact_mod_cast hlo
  push_cast [pow_add] at this ⊢
  exact this

theorem canonical_roundWithAccuracy (s : Sign) {m : Nat} {e : Int} (hm : 0 < m)
    (he : e ≤ target m e) (ht : target m e ≤ 970) :
    Canonical (roundWithAccuracy .binary64 s m e .exact) := by
  have hmin : -1074 ≤ target m e := le_max_right _ _
  rw [roundWithAccuracy_eq s hm he]
  split_ifs with h53
  · -- the mantissa carried into the next power of two
    exact canonical_finiteOrZero (by norm_num) (by omega) (by omega) (.inr le_rfl)
  · have hle := rne_le_two_pow m e
    refine canonical_finiteOrZero (by omega) hmin (by omega) ?_
    rcases hmin.lt_or_eq with hlt | heq
    · have := two_pow_le_rne hm he hlt
      exact .inr (by omega)
    · exact .inl heq.symm

theorem Canonical.lt_two_pow {s : Sign} {m : Nat} {e : Int} {hm : 0 < m}
    (h : Canonical (.finite s m e hm)) : m < 2 ^ 53 := by
  have hlog : m.log2 < 53 := by
    have := h.1
    unfold target at this
    omega
  exact (Nat.log2_lt hm.ne').1 hlog

theorem Canonical.le_exponent {s : Sign} {m : Nat} {e : Int} {hm : 0 < m}
    (h : Canonical (.finite s m e hm)) : -1074 ≤ e := by
  rw [h.1]
  exact le_max_right _ _

theorem Canonical.two_pow_le {s : Sign} {m : Nat} {e : Int} {hm : 0 < m}
    (h : Canonical (.finite s m e hm)) (he : -1074 < e) : 2 ^ 52 ≤ m := by
  have hlog : 52 ≤ m.log2 := by
    have := h.1
    unfold target at this
    omega
  exact (Nat.le_log2 hm.ne').1 hlog

theorem sgn_mul_natCast (s : Sign) (m : Nat) : sgn s * m = ((s.apply m : Int) : ℚ) := by
  cases s <;> simp [sgn, Sign.apply]

theorem value_finite (s : Sign) {m : Nat} (e : Int) (hm : 0 < m) :
    value (.finite s m e hm) = ((s.apply m : Int) : ℚ) * 2 ^ e := by
  rw [value, sgn_mul_natCast]

theorem round64_value {u : UnpackedFloat} (hu : Canonical u) : round64 (value u) = value u := by
  cases u with
  | finite s m e hm =>
    rw [value_finite]
    apply round64_exact _ hu.le_exponent
    have := hu.lt_two_pow
    cases s <;> simp [Sign.apply, abs_of_nonneg] <;> omega
  | zero s => exact round64_zero
  | infinity s => exact absurd hu id
  | notANumber => exact absurd hu id

theorem round_eq (s : Sign) (m : Nat) (e : Int) :
    UnpackedFloat.round .binary64 s m e =
      roundWithAccuracy .binary64 s (m * 2 ^ (e - target m e).toNat)
        (e - (e - target m e).toNat) .exact := by
  simp only [UnpackedFloat.round, decreaseExponent, targetExponent_eq, Nat.shiftLeft_eq]

theorem shift_value (m j : Nat) (e : Int) : ((m * 2 ^ j : Nat) : ℚ) * 2 ^ (e - j) = m * 2 ^ e := by
  push_cast
  rw [mul_assoc, ← zpow_natCast, ← zpow_add₀ (by norm_num)]
  ring_nf

theorem target_shift {m : Nat} (hm : 0 < m) (j : Nat) (e : Int) :
    target (m * 2 ^ j) (e - j) = target m e := by
  rw [target_eq_unitExp (by positivity), target_eq_unitExp hm, shift_value]

theorem value_round (s : Sign) {m : Nat} (hm : 0 < m) (e : Int) :
    value (UnpackedFloat.round .binary64 s m e) = sgn s * round64 (m * 2 ^ e) := by
  have ht := target_shift hm (e - target m e).toNat e
  rw [round_eq, value_roundWithAccuracy s (by positivity) (by rw [ht]; omega), shift_value]

theorem target_le_of_lt {m : Nat} (hm : 0 < m) {e : Int} (h : (m : ℚ) * 2 ^ e < 2 ^ 1023) :
    target m e ≤ 970 := by
  rw [target_eq_unitExp hm]
  exact unitExp_le (by positivity) (by simpa using h) (by norm_num)

theorem canonical_round (s : Sign) {m : Nat} (hm : 0 < m) {e : Int}
    (h : (m : ℚ) * 2 ^ e < 2 ^ 1023) : Canonical (UnpackedFloat.round .binary64 s m e) := by
  have ht := target_shift hm (e - target m e).toNat e
  rw [round_eq]
  exact canonical_roundWithAccuracy s (by positivity) (by rw [ht]; omega)
    (by rw [ht]; exact target_le_of_lt hm h)

theorem value_normalize (n e : Int) (z : Sign) :
    value (UnpackedFloat.normalize .binary64 n e z) = round64 (n * 2 ^ e) := by
  unfold UnpackedFloat.normalize
  rcases lt_trichotomy n 0 with hn | rfl | hn
  · rw [Int.compare_eq_lt.2 hn, value_round .negative (by omega) e]
    have hcast : (((-n).toNat : Nat) : ℚ) = -n := by
      have : (((-n).toNat : Nat) : Int) = -n := by omega
      exact_mod_cast this
    rw [hcast, neg_mul, round64_neg, sgn]
    ring
  · simp [value, round64_zero]
  · rw [Int.compare_eq_gt.2 hn, value_round .positive (by omega) e]
    have hcast : ((n.toNat : Nat) : ℚ) = n := by
      have : ((n.toNat : Nat) : Int) = n := by omega
      exact_mod_cast this
    rw [hcast, sgn, one_mul]

theorem canonical_normalize {n e : Int} (z : Sign) (h : |(n : ℚ) * 2 ^ e| < 2 ^ 1023) :
    Canonical (UnpackedFloat.normalize .binary64 n e z) := by
  unfold UnpackedFloat.normalize
  rw [abs_mul, abs_of_pos (by positivity : (0 : ℚ) < 2 ^ e)] at h
  rcases lt_trichotomy n 0 with hn | rfl | hn
  · rw [Int.compare_eq_lt.2 hn]
    refine canonical_round _ (by omega) ?_
    have hcast : (((-n).toNat : Nat) : ℚ) = |(n : ℚ)| := by
      have : (((-n).toNat : Nat) : Int) = |n| := by rw [abs_of_neg hn]; omega
      exact_mod_cast this
    rwa [hcast]
  · trivial
  · rw [Int.compare_eq_gt.2 hn]
    refine canonical_round _ (by omega) ?_
    have hcast : ((n.toNat : Nat) : ℚ) = |(n : ℚ)| := by
      have : ((n.toNat : Nat) : Int) = |n| := by rw [abs_of_pos hn]; omega
      exact_mod_cast this
    rwa [hcast]

theorem aligned_value (s : Sign) (m : Nat) {e t : Int} (ht : t ≤ e) :
    ((s.apply (decreaseExponent m e t).1 : Int) : ℚ) * 2 ^ t = ((s.apply m : Int) : ℚ) * 2 ^ e := by
  have hv := shift_value m (e - t).toNat e
  rw [show e - ((e - t).toNat : Int) = t by omega] at hv
  simp only [decreaseExponent, Nat.shiftLeft_eq]
  rw [← sgn_mul_natCast, ← sgn_mul_natCast, mul_assoc, hv, mul_assoc]

theorem sgn_neg (s : Sign) : sgn (-s) = -sgn s := by
  cases s
  · show sgn .positive = -sgn .negative
    norm_num [sgn]
  · show sgn .negative = -sgn .positive
    norm_num [sgn]

theorem value_zero (s : Sign) : value (.zero s) = 0 := rfl

theorem aligned_add_value (s s' : Sign) {m m' : Nat} {e e' : Int} (hm : 0 < m) (hm' : 0 < m') :
    ((s.apply (decreaseExponent m e (min e e')).1 + s'.apply (decreaseExponent m' e' (min e e')).1 :
      Int) : ℚ) * 2 ^ min e e' = value (.finite s m e hm) + value (.finite s' m' e' hm') := by
  rw [value_finite, value_finite, Int.cast_add, add_mul, aligned_value s m (min_le_left _ _),
    aligned_value s' m' (min_le_right _ _)]

theorem aligned_sub_value (s s' : Sign) {m m' : Nat} {e e' : Int} (hm : 0 < m) (hm' : 0 < m') :
    ((s.apply (decreaseExponent m e (min e e')).1 - s'.apply (decreaseExponent m' e' (min e e')).1 :
      Int) : ℚ) * 2 ^ min e e' = value (.finite s m e hm) - value (.finite s' m' e' hm') := by
  rw [value_finite, value_finite, Int.cast_sub, sub_mul, aligned_value s m (min_le_left _ _),
    aligned_value s' m' (min_le_right _ _)]

theorem value_finite_neg (s : Sign) {m : Nat} (e : Int) (hm : 0 < m) :
    value (.finite (-s) m e hm) = -value (.finite s m e hm) := by
  rw [value, value, sgn_neg]
  ring

theorem add_zeros (s s' : Sign) :
    add .binary64 (.zero s) (.zero s') = .zero (if s == s' then s else .positive) := by
  simp only [UnpackedFloat.add]
  split_ifs <;> rfl

theorem sub_zeros (s s' : Sign) :
    sub .binary64 (.zero s) (.zero s') = .zero (if s == -s' then s else .positive) := by
  simp only [UnpackedFloat.sub]
  split_ifs <;> rfl

theorem add_canonical {x y : UnpackedFloat} (hx : Canonical x) (hy : Canonical y)
    (h : |value x + value y| < 2 ^ 1023) :
    Canonical (add .binary64 x y) ∧ value (add .binary64 x y) = round64 (value x + value y) := by
  cases x with
  | infinity _ => exact absurd hx id
  | notANumber => exact absurd hx id
  | zero s =>
    cases y with
    | infinity _ => exact absurd hy id
    | notANumber => exact absurd hy id
    | zero s' =>
      rw [add_zeros]
      exact ⟨trivial, by simp only [value_zero, add_zero, round64_zero]⟩
    | finite s' m e hm => exact ⟨hy, by rw [value_zero, zero_add, round64_value hy]; rfl⟩
  | finite s m e hm =>
    cases y with
    | infinity _ => exact absurd hy id
    | notANumber => exact absurd hy id
    | zero s' => exact ⟨hx, by rw [value_zero, add_zero, round64_value hx]; rfl⟩
    | finite s' m' e' hm' =>
      rw [← aligned_add_value s s' hm hm'] at h ⊢
      exact ⟨canonical_normalize _ h, value_normalize _ _ _⟩

theorem sub_canonical {x y : UnpackedFloat} (hx : Canonical x) (hy : Canonical y)
    (h : |value x - value y| < 2 ^ 1023) :
    Canonical (sub .binary64 x y) ∧ value (sub .binary64 x y) = round64 (value x - value y) := by
  cases x with
  | infinity _ => exact absurd hx id
  | notANumber => exact absurd hx id
  | zero s =>
    cases y with
    | infinity _ => exact absurd hy id
    | notANumber => exact absurd hy id
    | zero s' =>
      rw [sub_zeros]
      exact ⟨trivial, by simp only [value_zero, sub_zero, round64_zero]⟩
    | finite s' m e hm =>
      -- zero minus a finite float is the float with its sign flipped
      refine ⟨hy, ?_⟩
      show value (.finite (-s') m e hm) = _
      rw [value_finite_neg, value_zero, zero_sub, round64_neg, round64_value hy]
  | finite s m e hm =>
    cases y with
    | infinity _ => exact absurd hy id
    | notANumber => exact absurd hy id
    | zero s' => exact ⟨hx, by rw [value_zero, sub_zero, round64_value hx]; rfl⟩
    | finite s' m' e' hm' =>
      rw [← aligned_sub_value s s' hm hm'] at h ⊢
      exact ⟨canonical_normalize _ h, value_normalize _ _ _⟩

theorem sgn_mul (s s' : Sign) : sgn (s * s') = sgn s * sgn s' := by
  cases s <;> cases s' <;> norm_num [sgn]

theorem exponent_le_target_mul {s s' : Sign} {m m' : Nat} {e e' : Int} {hm : 0 < m} {hm' : 0 < m'}
    (hx : Canonical (.finite s m e hm)) (hy : Canonical (.finite s' m' e' hm')) :
    e + e' ≤ target (m * m') (e + e') := by
  have hlo := hx.le_exponent
  have hlo' := hy.le_exponent
  by_cases hsub : e + e' ≤ -1074
  · exact hsub.trans (le_max_right _ _)
  have hnorm : 2 ^ 52 ≤ m * m' := by
    rcases (show -1074 < e ∨ -1074 < e' by omega) with he | he
    · exact (hx.two_pow_le he).trans (Nat.le_mul_of_pos_right m hm')
    · exact (hy.two_pow_le he).trans (Nat.le_mul_of_pos_left m' hm)
  have : 52 ≤ (m * m').log2 := (Nat.le_log2 (by positivity)).2 hnorm
  unfold target
  omega

theorem value_mul_finite (s s' : Sign) {m m' : Nat} (e e' : Int) (hm : 0 < m) (hm' : 0 < m') :
    value (.finite s m e hm) * value (.finite s' m' e' hm') =
      sgn (s * s') * ((m * m' : Nat) * 2 ^ (e + e')) := by
  rw [value, value, sgn_mul, zpow_add₀ (by norm_num)]
  push_cast
  ring

theorem mul_canonical {x y : UnpackedFloat} (hx : Canonical x) (hy : Canonical y)
    (h : |value x * value y| < 2 ^ 1023) :
    Canonical (mul .binary64 x y) ∧ value (mul .binary64 x y) = round64 (value x * value y) := by
  cases x with
  | infinity _ => exact absurd hx id
  | notANumber => exact absurd hx id
  | zero s =>
    cases y with
    | infinity _ => exact absurd hy id
    | notANumber => exact absurd hy id
    | zero s' => exact ⟨trivial, by rw [value_zero, zero_mul, round64_zero]; rfl⟩
    | finite s' m e hm => exact ⟨trivial, by rw [value_zero, zero_mul, round64_zero]; rfl⟩
  | finite s m e hm =>
    cases y with
    | infinity _ => exact absurd hy id
    | notANumber => exact absurd hy id
    | zero s' => exact ⟨trivial, by rw [value_zero, mul_zero, round64_zero]; rfl⟩
    | finite s' m' e' hm' =>
      have he := exponent_le_target_mul hx hy
      have hprod := value_mul_finite s s' e e' hm hm'
      have habs : ((m * m' : Nat) : ℚ) * 2 ^ (e + e') < 2 ^ 1023 := by
        rw [hprod, abs_mul] at h
        have hs : |sgn (s * s')| = 1 := by cases (s * s') <;> simp [sgn]
        rwa [hs, one_mul, abs_of_nonneg (by positivity)] at h
      refine ⟨canonical_roundWithAccuracy _ (by positivity) he (target_le_of_lt (by positivity) habs), ?_⟩
      show value (roundWithAccuracy .binary64 (s * s') (m * m') (e + e') .exact) = _
      rw [value_roundWithAccuracy _ (by positivity) he, hprod]
      cases (s * s') <;> simp [sgn, round64_neg]

theorem value_lt_of_exponent_lt {s s' : Sign} {m m' : Nat} {e e' : Int} {hm : 0 < m}
    {hm' : 0 < m'} (hx : Canonical (.finite s m e hm)) (hy : Canonical (.finite s' m' e' hm'))
    (he : e < e') : (m : ℚ) * 2 ^ e < m' * 2 ^ e' := by
  have hlt : (m : ℚ) < 2 ^ 53 := by exact_mod_cast hx.lt_two_pow
  have hle : (2 : ℚ) ^ 52 ≤ m' := by exact_mod_cast hy.two_pow_le (by have := hx.le_exponent; omega)
  calc (m : ℚ) * 2 ^ e < 2 ^ 53 * 2 ^ e := by gcongr
    _ = 2 ^ 52 * 2 ^ (e + 1) := by rw [zpow_add_one₀ (by norm_num)]; ring
    _ ≤ m' * 2 ^ e' := by gcongr; norm_num; omega

theorem compare_positive {m m' : Nat} {e e' : Int} {hm : 0 < m} {hm' : 0 < m'}
    (hx : Canonical (.finite .positive m e hm)) (hy : Canonical (.finite .positive m' e' hm')) :
    (compare e e').then (compare m m') = compare ((m : ℚ) * 2 ^ e) (m' * 2 ^ e') := by
  rcases lt_trichotomy e e' with he | rfl | he
  · rw [Int.compare_eq_lt.2 he, compare_lt_iff_lt.2 (value_lt_of_exponent_lt hx hy he)]
    rfl
  · rw [show compare e e = .eq from Int.compare_eq_eq.2 rfl, Ordering.eq_then]
    rcases lt_trichotomy m m' with hlt | rfl | hlt
    · rw [Nat.compare_eq_lt.2 hlt, compare_lt_iff_lt.2 (by gcongr)]
    · rw [show compare m m = .eq from Nat.compare_eq_eq.2 rfl, compare_eq_iff_eq.2 rfl]
    · rw [Nat.compare_eq_gt.2 hlt, compare_gt_iff_gt.2 (by gcongr)]
  · rw [Int.compare_eq_gt.2 he, compare_gt_iff_gt.2 (value_lt_of_exponent_lt hy hx he)]
    rfl

theorem value_pos (m : Nat) (e : Int) (hm : 0 < m) : 0 < value (.finite .positive m e hm) := by
  rw [value, sgn, one_mul]
  positivity

theorem value_neg (m : Nat) (e : Int) (hm : 0 < m) : value (.finite .negative m e hm) < 0 := by
  rw [value, sgn]
  have : (0 : ℚ) < m * 2 ^ e := by positivity
  linarith

theorem compare_neg_neg (a b : ℚ) : compare (-a) (-b) = (compare a b).swap := by
  rcases lt_trichotomy a b with h | rfl | h
  · rw [compare_lt_iff_lt.2 h, compare_gt_iff_gt.2 (neg_lt_neg h)]
    rfl
  · rw [compare_eq_iff_eq.2 rfl, compare_eq_iff_eq.2 rfl]
    rfl
  · rw [compare_gt_iff_gt.2 h, compare_lt_iff_lt.2 (neg_lt_neg h)]
    rfl

theorem compare_canonical {x y : UnpackedFloat} (hx : Canonical x) (hy : Canonical y) :
    UnpackedFloat.compare x y = some (compare (value x) (value y)) := by
  cases x with
  | infinity _ => exact absurd hx id
  | notANumber => exact absurd hx id
  | zero s =>
    cases y with
    | infinity _ => exact absurd hy id
    | notANumber => exact absurd hy id
    | zero s' => rw [value_zero, value_zero, compare_eq_iff_eq.2 rfl]; rfl
    | finite s' m' e' hm' =>
      cases s' with
      | positive => rw [value_zero, compare_lt_iff_lt.2 (value_pos m' e' hm')]; rfl
      | negative => rw [value_zero, compare_gt_iff_gt.2 (value_neg m' e' hm')]; rfl
  | finite s m e hm =>
    cases y with
    | infinity _ => exact absurd hy id
    | notANumber => exact absurd hy id
    | zero s' =>
      cases s with
      | positive => rw [value_zero, compare_gt_iff_gt.2 (value_pos m e hm)]; rfl
      | negative => rw [value_zero, compare_lt_iff_lt.2 (value_neg m e hm)]; rfl
    | finite s' m' e' hm' =>
      cases s with
      | positive =>
        cases s' with
        | positive =>
          show some ((compare e e').then (compare m m')) = _
          rw [compare_positive hx hy, value, value, sgn, one_mul, one_mul]
        | negative =>
          rw [compare_gt_iff_gt.2 ((value_neg m' e' hm').trans (value_pos m e hm))]
          rfl
      | negative =>
        cases s' with
        | positive =>
          rw [compare_lt_iff_lt.2 ((value_neg m e hm).trans (value_pos m' e' hm'))]
          rfl
        | negative =>
          -- negative floats compare as their magnitudes the other way round
          show some ((compare e e').then (compare m m')).swap = _
          rw [compare_positive (show Canonical (.finite .positive m e hm) from hx)
            (show Canonical (.finite .positive m' e' hm') from hy), value, value, sgn,
            neg_one_mul, neg_one_mul, neg_mul, neg_mul, compare_neg_neg]

/-- Every finite pattern unpacks to a canonical float: a normal one has its leading bit at
`2 ^ 52` and an exponent in `[-1074, 971]`, a subnormal one the exponent `-1074`. -/
theorem canonical_unpack (b : BitVec 64) (h : (unpack .binary64 b).isFinite = true) :
    Canonical (unpack .binary64 b) := by
  have hmant : (@unpackMantissa .binary64 b).toNat < 2 ^ 52 := (@unpackMantissa .binary64 b).isLt
  have hexp : (@unpackExponent .binary64 b).toNat < 2 ^ 11 := (@unpackExponent .binary64 b).isLt
  unfold UnpackedFloat.unpack at h ⊢
  dsimp only at h ⊢
  split_ifs at h ⊢ with hinf hmz hzero hmz'
  · simp [UnpackedFloat.isFinite] at h
  · simp [UnpackedFloat.isFinite] at h
  · trivial
  · -- subnormal: the smallest exponent
    have hne : (@unpackMantissa .binary64 b).toNat ≠ 0 := fun h0 => hmz' (BitVec.eq_of_toNat_eq h0)
    have hlog : (@unpackMantissa .binary64 b).toNat.log2 < 52 := (Nat.log2_lt hne).2 hmant
    have he : ((@unpackExponent .binary64 b).toNat : Int) = 0 := by
      rw [hzero]
      rfl
    refine ⟨?_, ?_⟩ <;> simp only [Format.exponentBias, he, target] <;> omega
  · -- normal: the implicit leading bit is set
    have hne0 : (@unpackExponent .binary64 b).toNat ≠ 0 := fun h0 => hzero (BitVec.eq_of_toNat_eq h0)
    have hne1 : (@unpackExponent .binary64 b).toNat ≠ 2047 := fun h1 => hinf (BitVec.eq_of_toNat_eq h1)
    have hm : (1#1 ++ @unpackMantissa .binary64 b).toNat = 2 ^ 52 + (@unpackMantissa .binary64 b).toNat := by
      rw [BitVec.toNat_append]
      rw [← Nat.shiftLeft_add_eq_or_of_lt hmant]
      rfl
    have hlog : (2 ^ 52 + (@unpackMantissa .binary64 b).toNat).log2 = 52 :=
      (Nat.log2_eq_iff (by positivity)).2 ⟨by omega, by omega⟩
    refine ⟨?_, ?_⟩ <;> simp only [Format.exponentBias, hm, hlog, target] <;>
      omega

def toRat (x : Float) : ℚ := value x.toModel.unpack

theorem canonical_of_isFinite {x : Float} (hx : x.isFinite = true) : Canonical x.toModel.unpack :=
  canonical_unpack _ hx

theorem round64_toRat {x : Float} (hx : x.isFinite = true) : round64 (toRat x) = toRat x :=
  round64_value (canonical_of_isFinite hx)

theorem isFinite_of_canonical {u : UnpackedFloat} (hu : Canonical u) : u.isFinite = true := by
  cases u with
  | finite _ _ _ _ => rfl
  | zero _ => rfl
  | infinity _ => exact absurd hu id
  | notANumber => exact absurd hu id

theorem unpack_pack_model {u : UnpackedFloat} (hu : Canonical u) : (Float.Model.pack u).unpack = u :=
  unpack_pack hu

theorem ofModel_pack {u : UnpackedFloat} (hu : Canonical u) :
    (Float.ofModel (Float.Model.pack u)).isFinite = true ∧
      toRat (Float.ofModel (Float.Model.pack u)) = value u := by
  have h : (Float.ofModel (Float.Model.pack u)).toModel.unpack = u := unpack_pack_model hu
  exact ⟨by rw [Float.isFinite, Float.Model.isFinite, h]; exact isFinite_of_canonical hu,
    by rw [toRat, h]⟩

variable {x y : Float}

theorem add_eq (hx : x.isFinite = true) (hy : y.isFinite = true)
    (h : |toRat x + toRat y| < 2 ^ 1023) :
    (x + y).isFinite = true ∧ toRat (x + y) = round64 (toRat x + toRat y) := by
  obtain ⟨hc, hv⟩ := add_canonical (canonical_of_isFinite hx) (canonical_of_isFinite hy) h
  exact ⟨(ofModel_pack hc).1, (ofModel_pack hc).2.trans hv⟩

theorem sub_eq (hx : x.isFinite = true) (hy : y.isFinite = true)
    (h : |toRat x - toRat y| < 2 ^ 1023) :
    (x - y).isFinite = true ∧ toRat (x - y) = round64 (toRat x - toRat y) := by
  obtain ⟨hc, hv⟩ := sub_canonical (canonical_of_isFinite hx) (canonical_of_isFinite hy) h
  exact ⟨(ofModel_pack hc).1, (ofModel_pack hc).2.trans hv⟩

theorem mul_eq (hx : x.isFinite = true) (hy : y.isFinite = true)
    (h : |toRat x * toRat y| < 2 ^ 1023) :
    (x * y).isFinite = true ∧ toRat (x * y) = round64 (toRat x * toRat y) := by
  obtain ⟨hc, hv⟩ := mul_canonical (canonical_of_isFinite hx) (canonical_of_isFinite hy) h
  exact ⟨(ofModel_pack hc).1, (ofModel_pack hc).2.trans hv⟩

theorem compare_toModel (hx : x.isFinite = true) (hy : y.isFinite = true) :
    UnpackedFloat.compare x.toModel.unpack y.toModel.unpack = some (compare (toRat x) (toRat y)) :=
  compare_canonical (canonical_of_isFinite hx) (canonical_of_isFinite hy)

theorem le_iff (hx : x.isFinite = true) (hy : y.isFinite = true) : x ≤ y ↔ toRat x ≤ toRat y := by
  show decide (x.toModel.unpack.le y.toModel.unpack = true) = true ↔ _
  rw [decide_eq_true_iff, UnpackedFloat.le, compare_toModel hx hy, Option.any_some,
    ← Ordering.ne_gt_iff_isLE]
  exact compare_le_iff_le

theorem lt_iff (hx : x.isFinite = true) (hy : y.isFinite = true) : x < y ↔ toRat x < toRat y := by
  show decide (x.toModel.unpack.lt y.toModel.unpack = true) = true ↔ _
  rw [decide_eq_true_iff, UnpackedFloat.lt, compare_toModel hx hy, beq_iff_eq, Option.some.injEq, compare_lt_iff_lt]

theorem beq_iff (hx : x.isFinite = true) (hy : y.isFinite = true) :
    (x == y) = true ↔ toRat x = toRat y := by
  show (x.toModel.unpack.beq y.toModel.unpack = true) ↔ _
  rw [UnpackedFloat.beq, compare_toModel hx hy, beq_iff_eq, Option.some.injEq, compare_eq_iff_eq]

theorem unpack_one : (Float.ofBits 0x3FF0000000000000).toModel.unpack = .finite .positive (2 ^ 52) (-52) (by decide) := by
  rfl

theorem toFloat_eq {n : Nat} (hn : n < 2 ^ 53) :
    n.toUInt64.toFloat.isFinite = true ∧ toRat n.toUInt64.toFloat = n := by
  have hsmall : |((n : Int) : ℚ) * 2 ^ (0 : Int)| < 2 ^ 1023 := by
    rw [zpow_zero, mul_one, Int.cast_natCast, abs_of_nonneg (by positivity)]
    calc (n : ℚ) < 2 ^ 53 := by exact_mod_cast hn
      _ < 2 ^ 1023 := pow_lt_pow_right₀ (by norm_num) (by norm_num)
  have hnat : n.toUInt64.toNat = n := by
    rw [Nat.toUInt64, UInt64.toNat_ofNat']
    omega
  have hconv : n.toUInt64.toFloat.toModel.unpack =
      UnpackedFloat.normalize .binary64 (n : Int) 0 .positive := by
    show (Float.Model.pack (UnpackedFloat.normalize .binary64 (n.toUInt64.toNat : Int) 0 .positive)).unpack = _
    rw [hnat]
    exact unpack_pack_model (canonical_normalize _ hsmall)
  have hexact : round64 (n : ℚ) = n := by
    have := round64_exact (show |(n : Int)| < 2 ^ 53 by simpa using hn)
      (show (-1074 : Int) ≤ 0 by norm_num)
    simpa using this
  refine ⟨?_, ?_⟩
  · rw [Float.isFinite, Float.Model.isFinite, hconv]
    exact isFinite_of_canonical (canonical_normalize _ hsmall)
  · rw [toRat, hconv, value_normalize, zpow_zero, mul_one, Int.cast_natCast, hexact]

theorem one_lit : (Float.ofBits 0x3FF0000000000000).isFinite = true ∧
    toRat (Float.ofBits 0x3FF0000000000000) = 1 := by
  rw [Float.isFinite, Float.Model.isFinite, toRat, unpack_one]
  norm_num [UnpackedFloat.isFinite, value, sgn]

theorem ofNat_eq {n : Nat} (hn : n < 2 ^ 53) :
    (Float.ofNat n).isFinite = true ∧ toRat (Float.ofNat n) = n := by
  -- below `2 ^ 53` the conversion multiplies the unsigned word by the power of ten `1`
  have hsplit : Float.ofNat n = n.toUInt64.toFloat * Float.ofBits 0x3FF0000000000000 := by
    show Float.ofScientific n false 0 = _
    rw [Float.ofScientific, dif_pos ⟨hn, by norm_num⟩]
    rfl
  obtain ⟨hwf, hwv⟩ := toFloat_eq hn
  have hprod : |toRat n.toUInt64.toFloat * toRat (Float.ofBits 0x3FF0000000000000)| < 2 ^ 1023 := by
    rw [hwv, one_lit.2, mul_one, abs_of_nonneg (by positivity)]
    calc (n : ℚ) < 2 ^ 53 := by exact_mod_cast hn
      _ < 2 ^ 1023 := pow_lt_pow_right₀ (by norm_num) (by norm_num)
  obtain ⟨hfin, hval⟩ := mul_eq hwf one_lit.1 hprod
  rw [hsplit]
  exact ⟨hfin, by rw [hval, one_lit.2, mul_one, round64_toRat hwf, hwv]⟩

end SpinLidar.Rounding
