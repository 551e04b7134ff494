import Mathlib
namespace SpinLidar.Rounding

open Float.Model UnpackedFloat

def rne (q : ℚ) : ℤ :=
  if q - ⌊q⌋ < 1 / 2 then ⌊q⌋
  else if 1 / 2 < q - ⌊q⌋ then ⌊q⌋ + 1
  else if ⌊q⌋ % 2 = 0 then ⌊q⌋ else ⌊q⌋ + 1

theorem rne_le_floor_add_one (q : ℚ) : rne q ≤ ⌊q⌋ + 1 := by
  unfold rne
  split_ifs <;> omega

theorem floor_le_rne (q : ℚ) : ⌊q⌋ ≤ rne q := by
  unfold rne
  split_ifs <;> omega

theorem rne_mono {q q' : ℚ} (h : q ≤ q') : rne q ≤ rne q' := by
  rcases (Int.floor_mono h).lt_or_eq with hlt | heq
  · calc rne q ≤ ⌊q⌋ + 1 := rne_le_floor_add_one q
      _ ≤ ⌊q'⌋ := hlt
      _ ≤ rne q' := floor_le_rne q'
  · -- the same integer part: the fractional parts are ordered
    have hfrac : q - ⌊q⌋ ≤ q' - ⌊q'⌋ := by rw [heq]; linarith
    unfold rne
    simp only [heq] at *
    split_ifs <;> first | omega | linarith

theorem rne_intCast (n : ℤ) : rne n = n := by
  simp [rne]

theorem le_rne {n : ℤ} {q : ℚ} (h : (n : ℚ) ≤ q) : n ≤ rne q := by
  simpa [rne_intCast] using rne_mono h

theorem rne_le {n : ℤ} {q : ℚ} (h : q ≤ n) : rne q ≤ n := by
  simpa [rne_intCast] using rne_mono h

theorem abs_rne_sub_le (q : ℚ) : |(rne q : ℚ) - q| ≤ 1 / 2 := by
  have h0 := Int.floor_le q
  have h1 := Int.lt_floor_add_one q
  rw [abs_le]
  unfold rne
  split_ifs with ha hb hc <;> push_cast <;> constructor <;> linarith

theorem rne_zero : rne 0 = 0 := by
  simpa using rne_intCast 0

theorem rne_neg (q : ℚ) : rne (-q) = -rne q := by
  rcases (Int.floor_le q).eq_or_lt with hint | hfrac
  · rw [← hint, ← Int.cast_neg, rne_intCast, rne_intCast]
  · -- off the integers the fractional part of `-q` is one minus that of `q`
    have h1 := Int.lt_floor_add_one q
    have hfl : ⌊-q⌋ = -⌊q⌋ - 1 := by
      rw [Int.floor_eq_iff]
      push_cast
      constructor <;> linarith
    have hlo : -q - ⌊-q⌋ < 1 / 2 ↔ 1 / 2 < q - ⌊q⌋ := by
      rw [hfl]; push_cast; constructor <;> intro h <;> linarith
    have hhi : 1 / 2 < -q - ⌊-q⌋ ↔ q - ⌊q⌋ < 1 / 2 := by
      rw [hfl]; push_cast; constructor <;> intro h <;> linarith
    unfold rne
    rw [if_congr hlo rfl rfl, if_congr hhi rfl rfl, hfl]
    by_cases ha : q - ⌊q⌋ < 1 / 2
    · have hb : ¬1 / 2 < q - ⌊q⌋ := by linarith
      simp only [ha, hb, if_true, if_false]
      omega
    · by_cases hb : 1 / 2 < q - ⌊q⌋
      · simp only [ha, hb, if_true, if_false]
        omega
      · simp only [ha, hb, if_false]
        split_ifs <;> omega

def roundAt (x : ℚ) (t : Int) : ℚ := rne (x / 2 ^ t) * 2 ^ t

theorem roundAt_mono {x y : ℚ} (t : Int) (h : x ≤ y) : roundAt x t ≤ roundAt y t := by
  unfold roundAt
  have h2 : (0 : ℚ) < 2 ^ t := by positivity
  have := rne_mono (div_le_div_of_nonneg_right h h2.le)
  exact mul_le_mul_of_nonneg_right (by exact_mod_cast this) h2.le

theorem roundAt_intCast_mul (n : Int) (t : Int) : roundAt (n * 2 ^ t) t = n * 2 ^ t := by
  unfold roundAt
  rw [mul_div_cancel_right₀ _ (by positivity), rne_intCast]

theorem roundAt_le {x : ℚ} {n t : Int} (h : x ≤ n * 2 ^ t) : roundAt x t ≤ n * 2 ^ t :=
  (roundAt_mono t h).trans (roundAt_intCast_mul n t).le

theorem le_roundAt {x : ℚ} {n t : Int} (h : n * 2 ^ t ≤ x) : (n : ℚ) * 2 ^ t ≤ roundAt x t :=
  (roundAt_intCast_mul n t).symm.le.trans (roundAt_mono t h)

theorem zpow_eq_intCast_mul {k t : Int} (h : t ≤ k) :
    (2 : ℚ) ^ k = ((2 ^ (k - t).toNat : Int) : ℚ) * 2 ^ t := by
  have hk : (((k - t).toNat : Nat) : Int) = k - t := by omega
  push_cast
  rw [← zpow_natCast, hk, ← zpow_add₀ (by norm_num), sub_add_cancel]

def unitExp (x : ℚ) : Int := max (Int.log 2 x + 1 - 53) (-1074)

def round64 (x : ℚ) : ℚ :=
  if x < 0 then -roundAt (-x) (unitExp (-x)) else roundAt x (unitExp x)

theorem log_eq_of_bounds {x : ℚ} {k : Int} (hlo : (2 : ℚ) ^ k ≤ x) (hhi : x < 2 ^ (k + 1)) :
    Int.log 2 x = k := by
  have hx : 0 < x := lt_of_lt_of_le (by positivity) hlo
  have h2 : 1 < (2 : ℕ) := by norm_num
  apply le_antisymm
  · have := (Int.lt_zpow_iff_log_lt h2 hx).1 (by exact_mod_cast hhi)
    omega
  · exact (Int.zpow_le_iff_le_log h2 hx).1 (by exact_mod_cast hlo)

theorem two_zpow_log_le {x : ℚ} (hx : 0 < x) : (2 : ℚ) ^ Int.log 2 x ≤ x := by
  have := Int.zpow_log_le_self (show 1 < (2 : ℕ) by norm_num) hx
  exact_mod_cast this

theorem lt_two_zpow_log {x : ℚ} : x < (2 : ℚ) ^ (Int.log 2 x + 1) := by
  have := Int.lt_zpow_succ_log_self (show 1 < (2 : ℕ) by norm_num) x
  exact_mod_cast this

theorem log_mono {x y : ℚ} (hx : 0 < x) (h : x ≤ y) : Int.log 2 x ≤ Int.log 2 y :=
  Int.log_mono_right hx h

theorem roundAt_nonneg {x : ℚ} (t : Int) (hx : 0 ≤ x) : 0 ≤ roundAt x t := by
  have := le_roundAt (show ((0 : Int) : ℚ) * 2 ^ t ≤ x by simpa using hx)
  simpa using this

theorem roundPos_mono {x y : ℚ} (hx : 0 < x) (h : x ≤ y) :
    roundAt x (unitExp x) ≤ roundAt y (unitExp y) := by
  have hlog := log_mono hx h
  rcases (show unitExp x ≤ unitExp y by unfold unitExp; omega).lt_or_eq with hlt | heq
  · -- the larger value sits in a higher binade, whose least power of two separates the two
    have hly : unitExp y = Int.log 2 y - 52 := by unfold unitExp at hlt ⊢; omega
    have hsep : x ≤ 2 ^ Int.log 2 y := by
      have hle : Int.log 2 x + 1 ≤ Int.log 2 y := by unfold unitExp at hlt; omega
      exact lt_two_zpow_log.le.trans (zpow_le_zpow_right₀ (by norm_num) hle)
    have hB : (2 : ℚ) ^ Int.log 2 y = ((2 ^ 52 : Int) : ℚ) * 2 ^ unitExp y := by
      rw [hly, show ((2 ^ 52 : Int) : ℚ) = (2 : ℚ) ^ (52 : Int) by norm_num, ← zpow_add₀ (by norm_num)]
      congr 1
      ring
    calc roundAt x (unitExp x) ≤ 2 ^ Int.log 2 y := by
          rw [zpow_eq_intCast_mul (show unitExp x ≤ Int.log 2 y by unfold unitExp at hlt ⊢; omega)] at hsep ⊢
          exact roundAt_le hsep
      _ ≤ roundAt y (unitExp y) := by
          rw [hB]
          exact le_roundAt (hB ▸ two_zpow_log_le (hx.trans_le h))
  · rw [heq]
    exact roundAt_mono _ h

theorem round64_of_nonneg {x : ℚ} (hx : 0 ≤ x) : round64 x = roundAt x (unitExp x) := by
  rw [round64, if_neg (not_lt.2 hx)]

theorem round64_of_neg {x : ℚ} (hx : x < 0) : round64 x = -roundAt (-x) (unitExp (-x)) := by
  rw [round64, if_pos hx]

theorem round64_nonneg {x : ℚ} (hx : 0 ≤ x) : 0 ≤ round64 x := by
  rw [round64_of_nonneg hx]
  exact roundAt_nonneg _ hx

theorem round64_zero : round64 0 = 0 := by
  simp [round64, roundAt, rne_zero]

theorem round64_mono {x y : ℚ} (h : x ≤ y) : round64 x ≤ round64 y := by
  rcases lt_or_ge x 0 with hx | hx
  · rcases lt_or_ge y 0 with hy | hy
    · rw [round64_of_neg hx, round64_of_neg hy, neg_le_neg_iff]
      exact roundPos_mono (neg_pos.2 hy) (neg_le_neg h)
    · rw [round64_of_neg hx]
      have := roundAt_nonneg (unitExp (-x)) (neg_nonneg.2 hx.le)
      linarith [round64_nonneg hy]
  · rcases hx.lt_or_eq with hx | hx
    · rw [round64_of_nonneg hx.le, round64_of_nonneg (hx.le.trans h)]
      exact roundPos_mono hx h
    · rw [← hx, round64_zero]
      exact round64_nonneg (hx ▸ h)

theorem round64_neg (x : ℚ) : round64 (-x) = -round64 x := by
  rcases lt_trichotomy x 0 with hx | hx | hx
  · rw [round64_of_nonneg (by linarith), round64_of_neg hx, neg_neg]
  · simp [hx, round64_zero]
  · rw [round64_of_neg (by linarith), round64_of_nonneg hx.le, neg_neg]

theorem roundAt_of_le {n e t : Int} (h : t ≤ e) : roundAt (n * 2 ^ e) t = n * 2 ^ e := by
  rw [zpow_eq_intCast_mul h, ← mul_assoc, ← Int.cast_mul, roundAt_intCast_mul]

theorem unitExp_le {x : ℚ} {e : Int} (hx : 0 < x) (h : x < 2 ^ (53 + e)) (he : -1074 ≤ e) :
    unitExp x ≤ e := by
  have := (Int.lt_zpow_iff_log_lt (show 1 < (2 : ℕ) by norm_num) hx).1 (by exact_mod_cast h)
  unfold unitExp
  omega

theorem round64_intCast_mul {n e : Int} (h : unitExp |(n : ℚ) * 2 ^ e| ≤ e) :
    round64 (n * 2 ^ e) = n * 2 ^ e := by
  rcases lt_or_ge ((n : ℚ) * 2 ^ e) 0 with hx | hx
  · rw [abs_of_neg hx] at h
    have hneg : -((n : ℚ) * 2 ^ e) = ((-n : Int) : ℚ) * 2 ^ e := by push_cast; ring
    rw [hneg] at h
    rw [round64_of_neg hx, hneg, roundAt_of_le h]
    push_cast
    ring
  · rw [abs_of_nonneg hx] at h
    rw [round64_of_nonneg hx, roundAt_of_le h]

theorem round64_exact {n e : Int} (hn : |n| < 2 ^ 53) (he : -1074 ≤ e) :
    round64 (n * 2 ^ e) = n * 2 ^ e := by
  rcases eq_or_ne n 0 with rfl | hn0
  · simp [round64_zero]
  apply round64_intCast_mul
  apply unitExp_le (by positivity) _ he
  rw [abs_mul, abs_of_pos (by positivity : (0 : ℚ) < 2 ^ e), zpow_add₀ (by norm_num)]
  have : (|(n : ℚ)|) < 2 ^ 53 := by exact_mod_cast hn
  exact mul_lt_mul_of_pos_right (by simpa using this) (by positivity)

theorem abs_roundAt_sub_le (x : ℚ) (t : Int) : |roundAt x t - x| ≤ 2 ^ t / 2 := by
  unfold roundAt
  have h2 : (0 : ℚ) < 2 ^ t := by positivity
  have hdiv : x = x / 2 ^ t * 2 ^ t := by field_simp
  calc |(rne (x / 2 ^ t) : ℚ) * 2 ^ t - x|
      = |(rne (x / 2 ^ t) : ℚ) - x / 2 ^ t| * 2 ^ t := by
        rw [← abs_of_pos h2, ← abs_mul, abs_of_pos h2, sub_mul, ← hdiv]
    _ ≤ 1 / 2 * 2 ^ t := mul_le_mul_of_nonneg_right (abs_rne_sub_le _) h2.le
    _ = 2 ^ t / 2 := by ring

theorem abs_round64_sub_le (x : ℚ) : |round64 x - x| ≤ 2 ^ unitExp |x| / 2 := by
  rcases lt_or_ge x 0 with hx | hx
  · rw [round64_of_neg hx, abs_of_neg hx, ← abs_neg]
    have := abs_roundAt_sub_le (-x) (unitExp (-x))
    rwa [show -(-roundAt (-x) (unitExp (-x)) - x) = roundAt (-x) (unitExp (-x)) - -x by ring]
  · rw [round64_of_nonneg hx, abs_of_nonneg hx]
    exact abs_roundAt_sub_le _ _

theorem abs_round64_sub_le_of_lt {x : ℚ} {k : Int} (hx : |x| < 2 ^ k) (hk : -1021 ≤ k) :
    |round64 x - x| ≤ 2 ^ (k - 54) := by
  rcases eq_or_ne x 0 with rfl | hx0
  · simp only [round64_zero, sub_zero, abs_zero]
    positivity
  have hunit : unitExp |x| ≤ k - 53 :=
    unitExp_le (abs_pos.2 hx0) (by rwa [show 53 + (k - 53) = k by ring]) (by omega)
  calc |round64 x - x| ≤ 2 ^ unitExp |x| / 2 := abs_round64_sub_le x
    _ ≤ 2 ^ (k - 53) / 2 := by gcongr; norm_num
    _ = 2 ^ (k - 54) := by
      rw [show k - 53 = k - 54 + 1 by ring, zpow_add_one₀ (by norm_num)]
      ring

theorem shift_succ (em : ExtendedMantissa) (k : Nat) :
    em >>> (k + 1) = (em >>> k).shiftRightOne := rfl

theorem shift_zero (em : ExtendedMantissa) : em >>> (0 : Nat) = em := rfl

theorem shift_exact (m k : Nat) :
    (⟨m, false, false⟩ : ExtendedMantissa) >>> (k + 1) =
      ⟨m / 2 ^ (k + 1), m / 2 ^ k % 2 != 0, m % 2 ^ k != 0⟩ := by
  induction k with
  | zero => simp [shift_succ, shift_zero, ExtendedMantissa.shiftRightOne, Nat.mod_one]
  | succ k ih =>
    rw [shift_succ, ih]
    simp only [ExtendedMantissa.shiftRightOne, ExtendedMantissa.mk.injEq, Nat.div_div_eq_div_mul,
      ← Nat.pow_succ, true_and]
    -- the bits below `k + 1` are the bit at `k` and those below it
    rw [Nat.mod_pow_succ]
    rcases Nat.mod_two_eq_zero_or_one (m / 2 ^ k) with hbit | hbit <;> simp [hbit]

theorem rne_natCast (n : ℕ) : rne n = n := by
  have h := rne_intCast n
  push_cast at h
  exact h

theorem rne_div_two_pow (m k : ℕ) :
    rne ((m : ℚ) / 2 ^ (k + 1)) =
      if m % 2 ^ (k + 1) < 2 ^ k then ((m / 2 ^ (k + 1) : ℕ) : ℤ)
      else if 2 ^ k < m % 2 ^ (k + 1) then ((m / 2 ^ (k + 1) + 1 : ℕ) : ℤ)
      else ((m / 2 ^ (k + 1) + m / 2 ^ (k + 1) % 2 : ℕ) : ℤ) := by
  have hd : ((2 ^ (k + 1) : ℕ) : ℚ) = 2 ^ (k + 1) := by push_cast; rfl
  have hfloor : ⌊(m : ℚ) / 2 ^ (k + 1)⌋ = ((m / 2 ^ (k + 1) : ℕ) : ℤ) := by
    rw [← hd, Rat.floor_natCast_div_natCast]
    norm_cast
  -- the fractional part is the remainder over the divisor
  have hsplit : (m : ℚ) = 2 ^ (k + 1) * ((m / 2 ^ (k + 1) : ℕ) : ℚ) + ((m % 2 ^ (k + 1) : ℕ) : ℚ) := by
    rw [← hd]
    exact_mod_cast (Nat.div_add_mod m (2 ^ (k + 1))).symm
  have hfrac : (m : ℚ) / 2 ^ (k + 1) - ((m / 2 ^ (k + 1) : ℕ) : ℤ) =
      ((m % 2 ^ (k + 1) : ℕ) : ℚ) / 2 ^ (k + 1) := by
    have hd0 : (2 : ℚ) ^ (k + 1) ≠ 0 := by positivity
    rw [Int.cast_natCast, hsplit, add_div, mul_div_cancel_left₀ _ hd0]
    ring
  -- half the divisor is `2 ^ k`
  have hmid : (1 : ℚ) / 2 * 2 ^ (k + 1) = ((2 ^ k : ℕ) : ℚ) := by push_cast; ring
  have hhalf (r : ℕ) : (r : ℚ) / 2 ^ (k + 1) < 1 / 2 ↔ r < 2 ^ k := by
    rw [div_lt_iff₀ (by positivity), hmid, Nat.cast_lt]
  have hhalf' (r : ℕ) : 1 / 2 < (r : ℚ) / 2 ^ (k + 1) ↔ 2 ^ k < r := by
    rw [lt_div_iff₀ (by positivity), hmid, Nat.cast_lt]
  unfold rne
  rw [hfloor, hfrac]
  simp only [hhalf, hhalf']
  split_ifs <;> omega

theorem roundedMantissa_shift (m k : Nat) :
    ((⟨m, false, false⟩ : ExtendedMantissa) >>> k).roundedMantissa = rne ((m : ℚ) / 2 ^ k) := by
  cases k with
  | zero =>
    simp [shift_zero, ExtendedMantissa.roundedMantissa, ExtendedMantissa.accuracy,
      Accuracy.roundToNearestEven, rne_natCast]
  | succ k =>
    rw [shift_exact, rne_div_two_pow, Nat.mod_pow_succ]
    have hlt : m % 2 ^ k < 2 ^ k := Nat.mod_lt _ (Nat.two_pow_pos k)
    -- the round bit and the sticky bit tell the three cases of the remainder apart
    rcases Nat.mod_two_eq_zero_or_one (m / 2 ^ k) with hbit | hbit
    · -- below the half, whatever lies under the round bit
      cases (m % 2 ^ k != 0) <;>
        simp [hbit, hlt, ExtendedMantissa.roundedMantissa, ExtendedMantissa.accuracy,
          Accuracy.roundToNearestEven]
    · cases hs : (m % 2 ^ k != 0) with
      | false =>
        -- exactly the half
        simp only [bne_eq_false_iff_eq] at hs
        simp [hbit, hs, ExtendedMantissa.roundedMantissa, ExtendedMantissa.accuracy,
          Accuracy.roundToNearestEven]
      | true =>
        -- above the half
        simp only [bne_iff_ne, ne_eq] at hs
        simp [hbit, hs, ExtendedMantissa.roundedMantissa, ExtendedMantissa.accuracy,
          Accuracy.roundToNearestEven]

theorem shift_mantissa (em : ExtendedMantissa) (k : Nat) :
    (em >>> k).mantissa = em.mantissa / 2 ^ k := by
  induction k with
  | zero => simp [shift_zero]
  | succ k ih =>
    rw [shift_succ, ExtendedMantissa.shiftRightOne, ih, Nat.div_div_eq_div_mul, ← Nat.pow_succ]

def target (m : Nat) (e : Int) : Int := max ((m.log2 : Int) + 1 + e - 53) (-1074)

theorem targetExponent_eq (m : Nat) (e : Int) :
    Format.binary64.targetExponent (totalExponent m e) = target m e := by
  simp only [Format.targetExponent, totalExponent, target, Format.mantissaBits, Format.minExponent]
  norm_num

def finiteOrZero (s : Sign) (q : Nat) (t : Int) : UnpackedFloat :=
  if h : q = 0 then .zero s else .finite s q t (Nat.pos_of_ne_zero h)

theorem ofMantissaAndAccuracy_exact (m : Nat) :
    ExtendedMantissa.ofMantissaAndAccuracy m .exact = ⟨m, false, false⟩ := rfl

theorem rne_le_two_pow (m : Nat) (e : Int) :
    rne ((m : ℚ) / 2 ^ (target m e - e).toNat) ≤ 2 ^ 53 := by
  apply rne_le
  have hk : (m.log2 : Int) + 1 - 53 ≤ ((target m e - e).toNat : Int) := by
    unfold target
    omega
  have hlt : m < 2 ^ (m.log2 + 1) := Nat.lt_log2_self
  have hpow : m ≤ 2 ^ 53 * 2 ^ (target m e - e).toNat := by
    calc m ≤ 2 ^ (m.log2 + 1) := hlt.le
      _ ≤ 2 ^ (53 + (target m e - e).toNat) := Nat.pow_le_pow_right (by norm_num) (by omega)
      _ = 2 ^ 53 * 2 ^ (target m e - e).toNat := Nat.pow_add 2 53 _
  rw [div_le_iff₀ (by positivity)]
  exact_mod_cast hpow

theorem second_shift {q : Nat} {t : Int} (ht : -1074 ≤ t) (hq : q ≤ 2 ^ 53) :
    (target q t - t).toNat = if q = 2 ^ 53 then 1 else 0 := by
  unfold target
  split_ifs with h
  · subst h
    rw [Nat.log2_two_pow]
    omega
  · have hlog : q.log2 ≤ 52 := by
      rcases Nat.eq_zero_or_pos q with h0 | h0
      · subst h0
        simp
      · have := (Nat.log2_lt h0.ne').2 (lt_of_le_of_ne hq h)
        omega
    omega

theorem roundWithAccuracy_eq (s : Sign) {m : Nat} {e : Int} (hm : 0 < m) (he : e ≤ target m e) :
    roundWithAccuracy .binary64 s m e .exact =
      if (rne ((m : ℚ) / 2 ^ (target m e - e).toNat)).toNat = 2 ^ 53 then
        finiteOrZero s (2 ^ 52) (target m e + 1)
      else finiteOrZero s (rne ((m : ℚ) / 2 ^ (target m e - e).toNat)).toNat (target m e) := by
  unfold roundWithAccuracy shiftToTargetExponent shiftToExponent
  simp only [targetExponent_eq, ofMantissaAndAccuracy_exact]
  have hk : e + ((target m e - e).toNat : Int) = target m e := by omega
  have hround := roundedMantissa_shift m (target m e - e).toNat
  have hbound := rne_le_two_pow m e
  have hnonneg : 0 ≤ rne ((m : ℚ) / 2 ^ (target m e - e).toNat) := le_rne (by positivity)
  simp only [hk]
  generalize hq : (rne ((m : ℚ) / 2 ^ (target m e - e).toNat)).toNat = q at *
  have hq' : ((⟨m, false, false⟩ : ExtendedMantissa) >>> (target m e - e).toNat).roundedMantissa =
      q := by
    omega
  have hqle : q ≤ 2 ^ 53 := by omega
  have ht : (-1074 : Int) ≤ target m e := le_max_right _ _
  have h2 : (target q (target m e) - target m e).toNat = if q = 2 ^ 53 then 1 else 0 :=
    second_shift ht hqle
  by_cases h53 : q = 2 ^ 53
  · rw [if_pos h53] at h2
    simp only [hq', h2, shift_mantissa, if_pos h53, finiteOrZero]
    subst h53
    simp
  · rw [if_neg h53] at h2
    simp only [hq', h2, shift_mantissa, if_neg h53, finiteOrZero, pow_zero, Nat.div_one,
      Nat.cast_zero, add_zero]

def sgn : Sign → ℚ
  | .positive => 1
  | .negative => -1

def value : UnpackedFloat → ℚ
  | .finite s m e _ => sgn s * m * 2 ^ e
  | _ => 0

theorem value_finiteOrZero (s : Sign) (q : Nat) (t : Int) :
    value (finiteOrZero s q t) = sgn s * q * 2 ^ t := by
  unfold finiteOrZero
  split_ifs with h
  · simp [value, h]
  · rfl

theorem binade_lower {m : Nat} (hm : 0 < m) (e : Int) :
    (2 : ℚ) ^ ((m.log2 : Int) + e) ≤ m * 2 ^ e := by
  rw [zpow_add₀ (by norm_num), zpow_natCast]
  have : ((2 ^ m.log2 : Nat) : ℚ) ≤ m := by exact_mod_cast Nat.log2_self_le hm.ne'
  push_cast at this
  exact mul_le_mul_of_nonneg_right this (by positivity)

theorem binade_upper (m : Nat) (e : Int) : (m : ℚ) * 2 ^ e < 2 ^ ((m.log2 : Int) + 1 + e) := by
  rw [zpow_add₀ (by norm_num), show ((m.log2 : Int) + 1) = ((m.log2 + 1 : Nat) : Int) by push_cast; rfl,
    zpow_natCast]
  have : (m : ℚ) < ((2 ^ (m.log2 + 1) : Nat) : ℚ) := by exact_mod_cast Nat.lt_log2_self
  push_cast at this
  exact mul_lt_mul_of_pos_right this (by positivity)

theorem target_eq_unitExp {m : Nat} (hm : 0 < m) (e : Int) : target m e = unitExp (m * 2 ^ e) := by
  have hlog : Int.log 2 ((m : ℚ) * 2 ^ e) = m.log2 + e :=
    log_eq_of_bounds (binade_lower hm e) (by simpa [add_right_comm] using binade_upper m e)
  rw [target, unitExp, hlog]
  congr 1
  ring

theorem value_roundWithAccuracy (s : Sign) {m : Nat} {e : Int} (hm : 0 < m) (he : e ≤ target m e) :
    value (roundWithAccuracy .binary64 s m e .exact) = sgn s * round64 (m * 2 ^ e) := by
  have hnonneg : 0 ≤ rne ((m : ℚ) / 2 ^ (target m e - e).toNat) := le_rne (by positivity)
  -- the shifted mantissa is the value over the unit of the target exponent
  have hshift : (m : ℚ) / 2 ^ (target m e - e).toNat = m * 2 ^ e / 2 ^ target m e := by
    have hk : ((target m e - e).toNat : Int) = target m e - e := by omega
    rw [← zpow_natCast, hk, zpow_sub₀ (by norm_num)]
    field_simp
  rw [roundWithAccuracy_eq s hm he, round64_of_nonneg (by positivity), ← target_eq_unitExp hm,
    roundAt, ← hshift]
  split_ifs with h53
  · rw [value_finiteOrZero, zpow_add₀ (by norm_num)]
    have : rne ((m : ℚ) / 2 ^ (target m e - e).toNat) = 2 ^ 53 := by omega
    rw [this]
    push_cast
    ring
  · rw [value_finiteOrZero]
    have : ((rne ((m : ℚ) / 2 ^ (target m e - e).toNat)).toNat : ℚ) =
        rne ((m : ℚ) / 2 ^ (target m e - e).toNat) := by
      exact_mod_cast Int.toNat_of_nonneg hnonneg
    rw [this]
    ring

theorem unpackSign_packComponents {spec : Format} {sign exponent mantissa} :
    unpackSign (packComponents spec sign exponent mantissa) = sign.toBitVec := by
  ext i hi
  obtain rfl : i = 0 := by omega
  simp [unpackSign, packComponents, BitVec.getLsbD_append, BitVec.getLsbD_eq_getElem,
    BitVec.getElem_append]

theorem ofBitVec_toBitVec (s : Sign) : Sign.ofBitVec s.toBitVec = s := by
  cases s <;> rfl

theorem unpack_pack_normal (s : Sign) {m : Nat} {e : Int} (hm : 0 < m) (hlog : m.log2 = 52)
    (he : -1074 ≤ e) (he' : e ≤ 971) :
    unpack .binary64 (pack .binary64 (.finite s m e hm)) = .finite s m e hm := by
  have hlo : 2 ^ 52 ≤ m := by have := Nat.log2_self_le hm.ne'; rwa [hlog] at this
  have hhi : m < 2 ^ 53 := by have := @Nat.lt_log2_self m; rwa [hlog] at this
  have hb : (e + ↑(2 ^ (11 - 1) - 1 : Nat) + ↑(52 : Nat)).toNat = (e + 1075).toNat := by omega
  simp only [UnpackedFloat.pack, Format.exponentBias, Format.mantissaBits, hlog, hb]
  rw [if_neg (by omega), if_pos trivial]
  unfold UnpackedFloat.unpack
  simp only [unpackMantissa_packComponents, unpackExponent_packComponents,
    unpackSign_packComponents, ofBitVec_toBitVec]
  have hexp : (BitVec.ofNat 11 (e + 1075).toNat).toNat = (e + 1075).toNat := by
    rw [BitVec.toNat_ofNat]
    omega
  have hne1 : BitVec.ofNat 11 (e + 1075).toNat ≠ -1#11 := by
    intro h
    have := congrArg BitVec.toNat h
    rw [hexp] at this
    simp at this
    omega
  have hne0 : BitVec.ofNat 11 (e + 1075).toNat ≠ 0#11 := by
    intro h
    have := congrArg BitVec.toNat h
    rw [hexp] at this
    simp at this
    omega
  have hman : (1#1 ++ BitVec.ofNat 52 m).toNat = m := by
    rw [BitVec.toNat_append, BitVec.toNat_ofNat]
    simp only [BitVec.toNat_ofNat, Nat.pow_one, Nat.one_mod, Nat.one_shiftLeft]
    rw [Nat.lor_comm, Nat.or_two_pow_eq_add_of_lt (Nat.mod_lt _ (Nat.two_pow_pos 52))]
    omega
  simp only [if_neg hne1, if_neg hne0, UnpackedFloat.finite.injEq, hman, hexp, true_and]
  simp [Format.exponentBias]
  omega

theorem unpack_pack_subnormal (s : Sign) {m : Nat} (hm : 0 < m) (hlog : m.log2 < 52) :
    unpack .binary64 (pack .binary64 (.finite s m (-1074) hm)) = .finite s m (-1074) hm := by
  have hhi : m < 2 ^ 52 := (Nat.log2_lt hm.ne').1 hlog
  have hb : ((-1074 : Int) + ↑(2 ^ (11 - 1) - 1 : Nat) + ↑(52 : Nat)).toNat = 1 := by decide
  have hnorm : ¬(m.log2 + 1 = 53) := by omega
  simp only [UnpackedFloat.pack, Format.exponentBias, Format.mantissaBits, hb]
  rw [if_neg (by decide), if_neg hnorm]
  unfold UnpackedFloat.unpack
  simp only [unpackMantissa_packComponents, unpackExponent_packComponents,
    unpackSign_packComponents, ofBitVec_toBitVec]
  have hman : (BitVec.ofNat 52 m).toNat = m := by
    rw [BitVec.toNat_ofNat]
    omega
  have hne : BitVec.ofNat 52 m ≠ 0#52 := by
    intro h
    have := congrArg BitVec.toNat h
    rw [hman] at this
    simp at this
    omega
  simp only [if_neg (show (0#11 : BitVec 11) ≠ -1#11 by decide), dif_neg hne, hman]
  simp [Format.exponentBias]

theorem unpack_pack_zero (s : Sign) : unpack .binary64 (pack .binary64 (.zero s)) = .zero s := by
  simp only [UnpackedFloat.pack, packedZero]
  unfold UnpackedFloat.unpack
  simp only [unpackMantissa_packComponents, unpackExponent_packComponents,
    unpackSign_packComponents, ofBitVec_toBitVec]
  simp

def Canonical : UnpackedFloat → Prop
  | .finite _ m e _ => e = target m e ∧ e ≤ 971
  | .zero _ => True
  | _ => False

theorem unpack_pack {u : UnpackedFloat} (hu : Canonical u) : unpack .binary64 (pack .binary64 u) = u := by
  cases u with
  | finite s m e hm =>
    obtain ⟨he, he'⟩ := hu
    have hlog : m.log2 ≤ 52 := by unfold target at he; omega
    rcases hlog.lt_or_eq with hlt | heq
    · have : e = -1074 := by unfold target at he; omega
      subst this
      exact unpack_pack_subnormal s hm hlt
    · exact unpack_pack_normal s hm heq (by unfold target at he; omega) he'
  | zero s => exact unpack_pack_zero s
  | infinity s => exact absurd hu id
  | notANumber => exact absurd hu id

end SpinLidar.Rounding
