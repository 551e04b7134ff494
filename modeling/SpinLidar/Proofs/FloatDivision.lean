import SpinLidar.Proofs.FloatOverflow
namespace SpinLidar.Rounding

open Float.Model UnpackedFloat

theorem RoundsTo.congr {x : Float} {q q' : ℚ} (h : RoundsTo x q) (hr : round64 q = round64 q')
    (hs : signOfRat q = signOfRat q') : RoundsTo x q' :=
  ⟨fun hlt => (h.finite (hr ▸ hlt)).imp id fun hv => hv.trans hr,
    fun hge => hs ▸ h.overflow (hr ▸ hge)⟩

theorem twice_add_congr {x x' : ℚ} (k : ℤ) (hx : 0 ≤ x ∧ x < 1) (hx' : 0 ≤ x' ∧ x' < 1)
    (hzero : x = 0 ↔ x' = 0) (hlow : x < 1 / 2 ↔ x' < 1 / 2) (hhigh : 1 / 2 < x ↔ 1 / 2 < x') :
    (2 * x + k < 0 ↔ 2 * x' + k < 0) ∧ (0 < 2 * x + k ↔ 0 < 2 * x' + k) := by
  rcases lt_trichotomy k 0 with hk | rfl | hk
  · rcases (show k = -1 ∨ k ≤ -2 by omega) with rfl | hk2
    · -- one below zero: the half decides
      have e (y : ℚ) : (2 * y + ((-1 : ℤ) : ℚ) < 0 ↔ y < 1 / 2) ∧
          (0 < 2 * y + ((-1 : ℤ) : ℚ) ↔ 1 / 2 < y) := by
        push_cast
        constructor <;> constructor <;> intro h <;> linarith
      rw [(e x).1, (e x').1, (e x).2, (e x').2]
      exact ⟨hlow, hhigh⟩
    · have hk2' : (k : ℚ) ≤ -2 := by exact_mod_cast hk2
      constructor <;> constructor <;> intro h <;> linarith
  · -- at zero only being zero counts
    simp only [Int.cast_zero, add_zero]
    refine ⟨⟨fun h => by linarith, fun h => by linarith⟩, ?_⟩
    rw [mul_pos_iff_of_pos_left two_pos, mul_pos_iff_of_pos_left two_pos, hx.1.lt_iff_ne',
      hx'.1.lt_iff_ne', ne_eq, ne_eq, hzero]
  · have hk1 : (1 : ℚ) ≤ k := by exact_mod_cast hk
    constructor <;> constructor <;> intro h <;> linarith

theorem floor_div_cell {u : ℚ} {a : ℕ} (j : ℕ) (hu : (a : ℚ) ≤ u ∧ u < a + 1) :
    ⌊u / 2 ^ j⌋ = ((a / 2 ^ j : ℕ) : ℤ) := by
  have h2 : (0 : ℚ) < 2 ^ j := by positivity
  have hle : a / 2 ^ j * 2 ^ j ≤ a := Nat.div_mul_le_self a _
  have hlt : a + 1 ≤ (a / 2 ^ j + 1) * 2 ^ j := by
    have := Nat.lt_div_mul_add (a := a) (Nat.two_pow_pos j)
    rw [add_mul, one_mul]
    omega
  rw [Int.floor_eq_iff, le_div_iff₀ h2, div_lt_iff₀ h2]
  constructor
  · calc (((a / 2 ^ j : ℕ) : ℤ) : ℚ) * 2 ^ j = ((a / 2 ^ j * 2 ^ j : ℕ) : ℚ) := by
          rw [Int.cast_natCast]
          push_cast
          ring
      _ ≤ a := by exact_mod_cast hle
      _ ≤ u := hu.1
  · calc u < a + 1 := hu.2
      _ ≤ (((a / 2 ^ j + 1) * 2 ^ j : ℕ) : ℚ) := by exact_mod_cast hlt
      _ = _ := by
        rw [Int.cast_natCast]
        push_cast
        ring

theorem rne_cell_congr {u u' : ℚ} {a : ℕ} (j : ℕ) (hu : (a : ℚ) ≤ u ∧ u < a + 1)
    (hu' : (a : ℚ) ≤ u' ∧ u' < a + 1) (hexact : u = a ↔ u' = a)
    (hlow : u < a + 1 / 2 ↔ u' < a + 1 / 2) (hhigh : a + 1 / 2 < u ↔ a + 1 / 2 < u') :
    rne (u / 2 ^ j) = rne (u' / 2 ^ j) := by
  -- the fractional part against a half is the offset in the cell against an integer
  set k : ℤ := 2 * ((a % 2 ^ j : ℕ) : ℤ) - 2 ^ j
  have hd : (0 : ℚ) < 2 * 2 ^ j := by positivity
  have hsplit : (a : ℚ) = ((a / 2 ^ j : ℕ) : ℚ) * 2 ^ j + ((a % 2 ^ j : ℕ) : ℚ) := by
    exact_mod_cast (Nat.div_add_mod' a (2 ^ j)).symm
  have hfrac (v : ℚ) : v / 2 ^ j - (((a / 2 ^ j : ℕ) : ℤ) : ℚ) - 1 / 2 =
      (2 * (v - a) + k) / (2 * 2 ^ j) := by
    rw [hsplit]
    simp only [k, Int.cast_sub, Int.cast_mul, Int.cast_ofNat, Int.cast_natCast, Int.cast_pow]
    field_simp
    ring
  have hlt (v : ℚ) : v / 2 ^ j - (((a / 2 ^ j : ℕ) : ℤ) : ℚ) < 1 / 2 ↔ 2 * (v - a) + k < 0 := by
    rw [← sub_neg, hfrac, div_lt_iff₀ hd, zero_mul]
  have hgt (v : ℚ) : 1 / 2 < v / 2 ^ j - (((a / 2 ^ j : ℕ) : ℤ) : ℚ) ↔ 0 < 2 * (v - a) + k := by
    rw [← sub_pos, hfrac, div_pos_iff_of_pos_right hd]
  have hcmp := twice_add_congr k ⟨sub_nonneg.2 hu.1, by linarith [hu.2]⟩
    ⟨sub_nonneg.2 hu'.1, by linarith [hu'.2]⟩ (by rw [sub_eq_zero, sub_eq_zero]; exact hexact)
    (by rw [sub_lt_iff_lt_add', sub_lt_iff_lt_add']; exact hlow)
    (by rw [lt_sub_iff_add_lt', lt_sub_iff_add_lt']; exact hhigh)
  unfold rne
  rw [floor_div_cell j hu, floor_div_cell j hu']
  simp only [hlt, hgt, hcmp.1, hcmp.2]

theorem unitExp_cell {u : ℚ} {q : ℕ} {t : ℤ} (hq : 0 < q ∨ t ≤ -1074) (hu0 : 0 < u)
    (hu : (q : ℚ) ≤ u ∧ u < q + 1) : unitExp (u * 2 ^ t) = target q t := by
  rcases Nat.eq_zero_or_pos q with rfl | hqpos
  · -- below the least unit: both sides are that unit
    have ht := hq.resolve_left (lt_irrefl 0)
    have hlog : Int.log 2 (u * 2 ^ t) < t := by
      rw [← Int.lt_zpow_iff_log_lt (by norm_num) (by positivity)]
      have hu1 : u < 1 := by simpa using hu.2
      calc u * 2 ^ t < 1 * 2 ^ t := by gcongr
        _ = _ := by rw [one_mul]; norm_num
    unfold unitExp target
    simp only [Nat.log2_zero, Nat.cast_zero]
    omega
  · have hq1 : ((q + 1 : ℕ) : ℚ) ≤ ((2 ^ (q.log2 + 1) : ℕ) : ℚ) := by
      exact_mod_cast Nat.lt_log2_self
    have hlog : Int.log 2 (u * 2 ^ t) = q.log2 + t := by
      apply log_eq_of_bounds
      · calc (2 : ℚ) ^ ((q.log2 : ℤ) + t) ≤ q * 2 ^ t := binade_lower hqpos t
          _ ≤ u * 2 ^ t := by gcongr; exact hu.1
      · calc u * 2 ^ t < (q + 1) * 2 ^ t := by gcongr; exact hu.2
          _ ≤ 2 ^ (q.log2 + 1) * 2 ^ t := by gcongr; exact_mod_cast hq1
          _ = 2 ^ ((q.log2 : ℤ) + t + 1) := by
            rw [← zpow_natCast, ← zpow_add₀ (by norm_num)]
            push_cast
            ring_nf
    unfold unitExp target
    rw [hlog]
    omega

theorem le_target_of_cell {q : ℕ} {t : ℤ} (hq : 2 ^ 52 ≤ q ∨ t ≤ -1074) : t ≤ target q t := by
  rcases hq with hq | ht
  · have : 52 ≤ q.log2 := (Nat.le_log2 (by omega)).2 hq
    unfold target
    omega
  · unfold target
    omega

theorem round64_cell_congr {u u' : ℚ} {q : ℕ} {t : ℤ} (hq : 2 ^ 52 ≤ q ∨ t ≤ -1074)
    (hu0 : 0 < u) (hu0' : 0 < u') (hu : (q : ℚ) ≤ u ∧ u < q + 1)
    (hu' : (q : ℚ) ≤ u' ∧ u' < q + 1) (hexact : u = q ↔ u' = q)
    (hlow : u < q + 1 / 2 ↔ u' < q + 1 / 2) (hhigh : q + 1 / 2 < u ↔ q + 1 / 2 < u') :
    round64 (u * 2 ^ t) = round64 (u' * 2 ^ t) := by
  have hq' : 0 < q ∨ t ≤ -1074 := hq.imp_left fun h => lt_of_lt_of_le (Nat.two_pow_pos 52) h
  have hT : t ≤ target q t := le_target_of_cell hq
  -- the unit `2 ^ target q t` is `2 ^ j` cells of width `2 ^ t`
  have hpow : (2 : ℚ) ^ target q t = 2 ^ (target q t - t).toNat * 2 ^ t := by
    rw [zpow_eq_intCast_mul hT]
    push_cast
    ring
  have hscale (v : ℚ) : v * 2 ^ t / 2 ^ target q t = v / 2 ^ (target q t - t).toNat := by
    rw [hpow, mul_div_mul_right _ _ (by positivity)]
  rw [round64_of_nonneg (by positivity), round64_of_nonneg (by positivity), unitExp_cell hq' hu0 hu,
    unitExp_cell hq' hu0' hu', roundAt, roundAt, hscale, hscale,
    rne_cell_congr _ hu hu' hexact hlow hhigh]

/-- The value `q + r / d` of a quotient with remainder `r < d`: in the cell of `q`, at its left
end exactly when nothing remains, and against the middle as twice the remainder against `d`. -/
theorem cell_add_div (q : ℕ) {r d : ℕ} (hd : 0 < d) (hr : r < d) :
    ((q : ℚ) ≤ q + r / d ∧ (q : ℚ) + r / d < q + 1) ∧ ((q : ℚ) + r / d = q ↔ r = 0) ∧
      ((q : ℚ) + r / d < q + 1 / 2 ↔ 2 * r < d) ∧ ((q : ℚ) + 1 / 2 < q + r / d ↔ d < 2 * r) := by
  have hd' : (0 : ℚ) < d := by exact_mod_cast hd
  refine ⟨⟨le_add_of_nonneg_right (by positivity), ?_⟩, ?_, ?_, ?_⟩
  · rw [add_lt_add_iff_left, div_lt_one hd']
    exact_mod_cast hr
  · rw [add_eq_left, div_eq_zero_iff]
    simp [hd.ne']
  · rw [add_lt_add_iff_left, div_lt_iff₀ hd', ← Nat.cast_lt (α := ℚ)]
    push_cast
    constructor <;> intro h <;> linarith
  · rw [add_lt_add_iff_left, lt_div_iff₀ hd', ← Nat.cast_lt (α := ℚ)]
    push_cast
    constructor <;> intro h <;> linarith

def accuracyBits : Accuracy → Nat
  | .exact => 0
  | .inexact .lt => 1
  | .inexact .eq => 2
  | .inexact .gt => 3

theorem accuracyBits_lt (acc : Accuracy) : accuracyBits acc < 4 := by
  rcases acc with _ | ⟨_ | _ | _⟩ <;> decide

theorem ofMantissaAndAccuracy_bits (m : Nat) (acc : Accuracy) :
    ExtendedMantissa.ofMantissaAndAccuracy m acc =
      (⟨4 * m + accuracyBits acc, false, false⟩ : ExtendedMantissa) >>> (1 + 1) := by
  rw [shift_exact]
  rcases acc with _ | ⟨_ | _ | _⟩ <;>
    simp [ExtendedMantissa.ofMantissaAndAccuracy, accuracyBits] <;> omega

theorem shift_add (em : ExtendedMantissa) (a b : Nat) : em >>> (a + b) = (em >>> a) >>> b := by
  induction b with
  | zero => rfl
  | succ b ih => rw [← Nat.add_assoc, shift_succ, shift_succ, ih]

theorem target_bits {q c : Nat} (hc : c < 4) (t : Int) (hq : 0 < q ∨ t ≤ -1022) :
    target (4 * q + c) (t - 2) = target q t := by
  rcases Nat.eq_zero_or_pos q with rfl | hq0
  · have ht := hq.resolve_left (lt_irrefl 0)
    have hc' : c.log2 < 2 := by
      rcases Nat.eq_zero_or_pos c with rfl | hc0
      · simp
      · exact (Nat.log2_lt hc0.ne').2 (by omega)
    unfold target
    simp only [Nat.log2_zero, Nat.cast_zero, mul_zero, zero_add]
    omega
  · have h1 := Nat.log2_self_le hq0.ne'
    have h2 : q < 2 ^ q.log2 * 2 := by rw [← pow_succ]; exact Nat.lt_log2_self
    have hlog : (4 * q + c).log2 = q.log2 + 2 := by
      have h4 : 2 ^ (q.log2 + 2) = 2 ^ q.log2 * 4 := by ring
      have h8 : 2 ^ (q.log2 + 2 + 1) = 2 ^ q.log2 * 8 := by ring
      rw [Nat.log2_eq_iff (by omega), h4, h8]
      constructor <;> omega
    unfold target
    rw [hlog]
    push_cast
    omega

theorem shiftToTargetExponent_bits (q : Nat) (t : Int) (acc : Accuracy) (ht : t ≤ target q t)
    (htarget : target (4 * q + accuracyBits acc) (t - 2) = target q t) :
    shiftToTargetExponent .binary64 q t acc =
      shiftToTargetExponent .binary64 (4 * q + accuracyBits acc) (t - 2) .exact := by
  simp only [shiftToTargetExponent, shiftToExponent, targetExponent_eq, htarget,
    ofMantissaAndAccuracy_exact]
  rw [ofMantissaAndAccuracy_bits, ← shift_add, Prod.mk.injEq]
  have hk : (target q t - (t - 2)).toNat = (1 + 1) + (target q t - t).toNat := by omega
  rw [hk]
  refine ⟨rfl, ?_⟩
  push_cast
  ring

theorem roundWithAccuracy_bits (s : Sign) (q : Nat) (t : Int) (acc : Accuracy)
    (ht : t ≤ target q t) (htarget : target (4 * q + accuracyBits acc) (t - 2) = target q t) :
    roundWithAccuracy .binary64 s q t acc =
      roundWithAccuracy .binary64 s (4 * q + accuracyBits acc) (t - 2) .exact := by
  rw [roundWithAccuracy, roundWithAccuracy, shiftToTargetExponent_bits q t acc ht htarget]

theorem accuracyBits_fraction {r d : Nat} (hd : 0 < d) :
    (accuracyBits (accuracyOfFraction r d) = 0 ↔ r = 0) ∧
      (accuracyBits (accuracyOfFraction r d) < 2 ↔ 2 * r < d) ∧
      (2 < accuracyBits (accuracyOfFraction r d) ↔ d < 2 * r) := by
  unfold accuracyOfFraction
  by_cases hr : r = 0
  · simp [hr, accuracyBits, hd]
  · rw [if_neg hr]
    rcases lt_trichotomy (2 * r) d with h | h | h
    · rw [compare_lt_iff_lt.2 h]
      simp only [accuracyBits, hr, h, iff_true, iff_false]
      omega
    · rw [compare_eq_iff_eq.2 h]
      simp only [accuracyBits, hr, iff_false]
      omega
    · rw [compare_gt_iff_gt.2 h]
      simp only [accuracyBits, hr, h, iff_true, iff_false]
      omega

/-- The exponent of the quotient the model forms: the difference of the exponents, lowered so
that the quotient has 53 bits, but not below the subnormal unit for that. -/
def divExp (m₁ m₂ : Nat) (e₁ e₂ : Int) : Int :=
  min (e₁ - e₂) (max ((m₁.log2 : Int) - m₂.log2 + e₁ - e₂ - 53) (-1074))

theorem divCore_eq (m₁ m₂ : Nat) (e₁ e₂ : Int) :
    divCore .binary64 m₁ e₁ m₂ e₂ =
      (m₁ * 2 ^ (e₁ - e₂ - divExp m₁ m₂ e₁ e₂).toNat / m₂, divExp m₁ m₂ e₁ e₂,
        accuracyOfFraction (m₁ * 2 ^ (e₁ - e₂ - divExp m₁ m₂ e₁ e₂).toNat % m₂) m₂) := by
  have hexp : Format.binary64.targetExponent (totalExponent m₁ e₁ - totalExponent m₂ e₂) =
      max ((m₁.log2 : Int) - m₂.log2 + e₁ - e₂ - 53) (-1074) := by
    simp only [Format.targetExponent, totalExponent, Format.mantissaBits, Format.minExponent]
    norm_num
    omega
  simp only [divCore, hexp, Nat.shiftLeft_eq]
  rfl

theorem divExp_cases {m₁ m₂ : Nat} (hm₁ : 0 < m₁) (hm₂ : 0 < m₂) (e₁ e₂ : Int) :
    2 ^ 52 ≤ m₁ * 2 ^ (e₁ - e₂ - divExp m₁ m₂ e₁ e₂).toNat / m₂ ∨ divExp m₁ m₂ e₁ e₂ ≤ -1074 := by
  set k := (e₁ - e₂ - divExp m₁ m₂ e₁ e₂).toNat
  have hcase : divExp m₁ m₂ e₁ e₂ ≤ -1074 ∨ m₂.log2 + 53 ≤ m₁.log2 + k := by
    simp only [k, divExp]
    omega
  refine hcase.symm.imp (fun h => ?_) id
  rw [Nat.le_div_iff_mul_le hm₂]
  calc 2 ^ 52 * m₂ ≤ 2 ^ 52 * 2 ^ (m₂.log2 + 1) := Nat.mul_le_mul_left _ Nat.lt_log2_self.le
    _ = 2 ^ (m₂.log2 + 53) := by rw [← pow_add]; ring_nf
    _ ≤ 2 ^ (m₁.log2 + k) := Nat.pow_le_pow_right (by norm_num) h
    _ = 2 ^ m₁.log2 * 2 ^ k := pow_add _ _ _
    _ ≤ m₁ * 2 ^ k := Nat.mul_le_mul_right _ (Nat.log2_self_le hm₁.ne')

theorem sgn_div (s₁ s₂ : Sign) : sgn (s₁ / s₂) = sgn s₁ / sgn s₂ := by
  cases s₁ <;> cases s₂ <;> norm_num [sgn] <;> rfl

theorem value_div_finite (s₁ s₂ : Sign) {m₁ m₂ : Nat} (e₁ e₂ : Int) (hm₁ : 0 < m₁) (hm₂ : 0 < m₂) :
    value (.finite s₁ m₁ e₁ hm₁) / value (.finite s₂ m₂ e₂ hm₂) =
      sgn (s₁ / s₂) * (((m₁ * 2 ^ (e₁ - e₂ - divExp m₁ m₂ e₁ e₂).toNat : ℕ) : ℚ) / m₂ *
        2 ^ divExp m₁ m₂ e₁ e₂) := by
  have hk : (((e₁ - e₂ - divExp m₁ m₂ e₁ e₂).toNat : ℕ) : ℤ) = e₁ - e₂ - divExp m₁ m₂ e₁ e₂ := by
    have := min_le_left (e₁ - e₂) (max ((m₁.log2 : Int) - m₂.log2 + e₁ - e₂ - 53) (-1074))
    simp only [divExp]
    omega
  have hpow : (2 : ℚ) ^ e₁ / 2 ^ e₂ =
      2 ^ (e₁ - e₂ - divExp m₁ m₂ e₁ e₂).toNat * 2 ^ divExp m₁ m₂ e₁ e₂ := by
    rw [← zpow_natCast, hk, ← zpow_sub₀ (by norm_num), ← zpow_add₀ (by norm_num)]
    ring_nf
  have hm₂' : (m₂ : ℚ) ≠ 0 := by exact_mod_cast hm₂.ne'
  rw [value, value, sgn_div]
  push_cast
  rw [show (sgn s₁ * m₁ * 2 ^ e₁) / (sgn s₂ * m₂ * 2 ^ e₂) =
    sgn s₁ / sgn s₂ * (m₁ / m₂ * (2 ^ e₁ / 2 ^ e₂)) by field_simp, hpow]
  field_simp

theorem extended_pos {M m : ℕ} (hM : 0 < M) (hm : 0 < m) :
    0 < 4 * (M / m) + accuracyBits (accuracyOfFraction (M % m) m) := by
  rcases Nat.eq_zero_or_pos (M / m) with h | h
  · have hr : M % m ≠ 0 := by
      rw [Nat.mod_eq_of_lt ((Nat.div_eq_zero_iff_lt hm).1 h)]
      exact hM.ne'
    have : accuracyBits (accuracyOfFraction (M % m) m) ≠ 0 :=
      fun h' => hr ((accuracyBits_fraction hm).1.1 h')
    omega
  · omega

theorem round64_accuracyBits {M m : ℕ} (hM : 0 < M) (hm : 0 < m) {t : ℤ}
    (hcase : 2 ^ 52 ≤ M / m ∨ t ≤ -1074) :
    round64 (((4 * (M / m) + accuracyBits (accuracyOfFraction (M % m) m) : ℕ) : ℚ) * 2 ^ (t - 2)) =
      round64 ((M : ℚ) / m * 2 ^ t) := by
  set c := accuracyBits (accuracyOfFraction (M % m) m)
  have hc : c < 4 := accuracyBits_lt _
  have ⟨hc0, hclow, hchigh⟩ : (c = 0 ↔ M % m = 0) ∧ (c < 2 ↔ 2 * (M % m) < m) ∧
      (2 < c ↔ m < 2 * (M % m)) := accuracyBits_fraction hm
  have hexact : ((4 * (M / m) + c : ℕ) : ℚ) * 2 ^ (t - 2) = ((M / m : ℕ) + (c : ℚ) / 4) * 2 ^ t := by
    rw [zpow_sub₀ (by norm_num)]
    push_cast
    ring
  have hquot : (M : ℚ) / m = (M / m : ℕ) + ((M % m : ℕ) : ℚ) / m := by
    have hm' : (m : ℚ) ≠ 0 := by exact_mod_cast hm.ne'
    have hsplit : (M : ℚ) = (M / m : ℕ) * m + (M % m : ℕ) := by
      exact_mod_cast (Nat.div_add_mod' M m).symm
    rw [hsplit, add_div, mul_div_cancel_right₀ _ hm']
  -- the exact quotient and the longer mantissa lie alike in the cell of the whole quotient
  obtain ⟨hcell, hz, hl, hh⟩ := cell_add_div (M / m) hm (Nat.mod_lt M hm)
  obtain ⟨hcell', hz', hl', hh'⟩ := cell_add_div (M / m) (show 0 < 4 by norm_num) hc
  simp only [Nat.cast_ofNat] at hcell' hz' hl' hh'
  have hpos : (0 : ℚ) < ((4 * (M / m) + c : ℕ) : ℚ) := by exact_mod_cast extended_pos hM hm
  have hu0' : (0 : ℚ) < (M / m : ℕ) + (c : ℚ) / 4 := by
    push_cast at hpos
    linarith
  have hu0 : (0 : ℚ) < M / m := by positivity
  rw [hexact, hquot]
  refine round64_cell_congr hcase hu0' (hquot ▸ hu0) hcell' hcell ?_ ?_ ?_
  · rw [hz', hz]
    exact hc0
  · rw [hl', hl, ← hclow]
    show 2 * c < 4 ↔ c < 2
    omega
  · rw [hh', hh, ← hchigh]
    show 4 < 2 * c ↔ 2 < c
    omega

theorem roundsTo_div_finite (s₁ s₂ : Sign) {m₁ m₂ : Nat} (e₁ e₂ : Int) (hm₁ : 0 < m₁)
    (hm₂ : 0 < m₂) :
    RoundsTo (Float.ofModel (Float.Model.pack
        (div .binary64 (.finite s₁ m₁ e₁ hm₁) (.finite s₂ m₂ e₂ hm₂))))
      (value (.finite s₁ m₁ e₁ hm₁) / value (.finite s₂ m₂ e₂ hm₂)) := by
  set t := divExp m₁ m₂ e₁ e₂
  set M := m₁ * 2 ^ (e₁ - e₂ - t).toNat
  set acc := accuracyOfFraction (M % m₂) m₂
  have hdiv : div .binary64 (.finite s₁ m₁ e₁ hm₁) (.finite s₂ m₂ e₂ hm₂) =
      roundWithAccuracy .binary64 (s₁ / s₂) (M / m₂) t acc := by
    simp only [UnpackedFloat.div, divCore_eq]
    rfl
  have hcase : 2 ^ 52 ≤ M / m₂ ∨ t ≤ -1074 := divExp_cases hm₁ hm₂ e₁ e₂
  have hM : 0 < M := Nat.mul_pos hm₁ (Nat.two_pow_pos _)
  have hpos := extended_pos hM hm₂
  have hT : t ≤ target (M / m₂) t := le_target_of_cell hcase
  have htarget : target (4 * (M / m₂) + accuracyBits acc) (t - 2) = target (M / m₂) t :=
    target_bits (accuracyBits_lt acc) t
      (hcase.imp (fun h => lt_of_lt_of_le (by norm_num) h) fun h => by omega)
  -- the division rounds the quotient extended by two bits that stand for the remainder
  have h := roundsTo_roundWithAccuracy (s₁ / s₂) hpos (by rw [htarget]; omega)
  rw [hdiv, roundWithAccuracy_bits (s₁ / s₂) _ t acc hT htarget, value_div_finite]
  refine h.congr ?_ ?_
  · rw [round64_sgn_mul, round64_sgn_mul, round64_accuracyBits hM hm₂ hcase]
  · have hq : (0 : ℚ) < M / m₂ * 2 ^ t :=
      mul_pos (div_pos (by exact_mod_cast hM) (by exact_mod_cast hm₂)) (by positivity)
    rw [signOfRat_sgn_mul _ (mul_pos (by exact_mod_cast hpos) (by positivity)),
      signOfRat_sgn_mul _ hq]

variable {x y : Float}

theorem div_roundsTo (hx : x.isFinite = true) (hy : y.isFinite = true) (hy0 : toRat y ≠ 0) :
    RoundsTo (x / y) (toRat x / toRat y) := by
  have cx := canonical_of_isFinite hx
  have cy := canonical_of_isFinite hy
  change value y.toModel.unpack ≠ 0 at hy0
  show RoundsTo (Float.ofModel (Float.Model.pack (div .binary64 x.toModel.unpack y.toModel.unpack)))
    (value x.toModel.unpack / value y.toModel.unpack)
  generalize x.toModel.unpack = u at cx ⊢
  generalize y.toModel.unpack = v at cy hy0 ⊢
  cases v with
  | infinity _ => exact absurd cy id
  | notANumber => exact absurd cy id
  | zero _ => exact absurd (value_zero _) hy0
  | finite s₂ m₂ e₂ hm₂ =>
    cases u with
    | infinity _ => exact absurd cx id
    | notANumber => exact absurd cx id
    | zero s₁ => exact roundsTo_of_value trivial (by rw [value_zero, zero_div, round64_zero]; rfl)
    | finite s₁ m₁ e₁ hm₁ => exact roundsTo_div_finite s₁ s₂ e₁ e₂ hm₁ hm₂

end SpinLidar.Rounding
