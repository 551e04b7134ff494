import SpinLidar.Proofs.FloatArith
import SpinLidar.Binary.Arith

namespace SpinLidar.Rounding

open Float.Model UnpackedFloat

section Fields

variable (b : BitVec 64)

theorem unpackMantissa_toNat : (@unpackMantissa .binary64 b).toNat = b.toNat % 2 ^ 52 := by
  simp [unpackMantissa, BitVec.extractLsb_toNat]

theorem unpackExponent_toNat : (@unpackExponent .binary64 b).toNat = b.toNat / 2 ^ 52 % 2048 := by
  simp [unpackExponent, BitVec.extractLsb_toNat, Nat.shiftRight_eq_div_pow]

theorem ofBitVec_unpackSign :
    Sign.ofBitVec (@unpackSign .binary64 b) = if b.toNat < 2 ^ 63 then .positive else .negative := by
  have hlt := b.isLt
  have hbit : (@unpackSign .binary64 b).toNat = b.toNat / 2 ^ 63 % 2 := by
    simp [unpackSign, BitVec.extractLsb_toNat, Nat.shiftRight_eq_div_pow]
  unfold Sign.ofBitVec
  by_cases hs : b.toNat < 2 ^ 63
  · rw [if_pos (BitVec.eq_of_toNat_eq (by rw [hbit]; simp; omega)), if_pos hs]
  · rw [if_neg (fun h => by have := congrArg BitVec.toNat h; rw [hbit] at this; simp at this; omega),
      if_neg hs]

end Fields

def signOf (n : Nat) : Sign := if n < 2 ^ 63 then .positive else .negative

theorem unpackExponent_ne_allOnes {b : BitVec 64} (h : b.toNat / 2 ^ 52 % 2048 ≠ 2047) :
    @unpackExponent .binary64 b ≠ -1#11 := fun he => by
  have := congrArg BitVec.toNat he
  rw [unpackExponent_toNat] at this
  exact h this

theorem unpackExponent_eq_zero_iff {b : BitVec 64} :
    @unpackExponent .binary64 b = 0#11 ↔ b.toNat / 2 ^ 52 % 2048 = 0 := by
  rw [← BitVec.toNat_inj, unpackExponent_toNat]
  rfl

theorem unpackMantissa_eq_zero_iff {b : BitVec 64} :
    @unpackMantissa .binary64 b = 0#52 ↔ b.toNat % 2 ^ 52 = 0 := by
  rw [← BitVec.toNat_inj, unpackMantissa_toNat]
  rfl

theorem unpack_normal {b : BitVec 64} (h0 : b.toNat / 2 ^ 52 % 2048 ≠ 0)
    (h1 : b.toNat / 2 ^ 52 % 2048 ≠ 2047) :
    unpack .binary64 b = .finite (signOf b.toNat) (b.toNat % 2 ^ 52 + 2 ^ 52)
      ((b.toNat / 2 ^ 52 % 2048 : Nat) - 1075) (by positivity) := by
  have hmant : (1#1 ++ @unpackMantissa .binary64 b).toNat = b.toNat % 2 ^ 52 + 2 ^ 52 := by
    rw [BitVec.toNat_append, ← Nat.shiftLeft_add_eq_or_of_lt (@unpackMantissa .binary64 b).isLt,
      unpackMantissa_toNat]
    simp only [BitVec.toNat_ofNat]
    omega
  unfold UnpackedFloat.unpack
  dsimp only
  rw [if_neg (unpackExponent_ne_allOnes h1), if_neg (mt unpackExponent_eq_zero_iff.1 h0)]
  simp only [hmant, ofBitVec_unpackSign, unpackExponent_toNat, signOf, Format.exponentBias]
  rfl

theorem unpack_subnormal {b : BitVec 64} (h0 : b.toNat / 2 ^ 52 % 2048 = 0)
    (hm : b.toNat % 2 ^ 52 ≠ 0) :
    unpack .binary64 b = .finite (signOf b.toNat) (b.toNat % 2 ^ 52) (-1074) (by omega) := by
  unfold UnpackedFloat.unpack
  dsimp only
  rw [if_neg (unpackExponent_ne_allOnes (by omega)), if_pos (unpackExponent_eq_zero_iff.2 h0),
    dif_neg (mt unpackMantissa_eq_zero_iff.1 hm)]
  simp only [unpackMantissa_toNat, ofBitVec_unpackSign, unpackExponent_toNat, h0, signOf,
    Format.exponentBias]
  rfl

theorem unpack_zero {b : BitVec 64} (h0 : b.toNat / 2 ^ 52 % 2048 = 0) (hm : b.toNat % 2 ^ 52 = 0) :
    unpack .binary64 b = .zero (signOf b.toNat) := by
  unfold UnpackedFloat.unpack
  dsimp only
  rw [if_neg (unpackExponent_ne_allOnes (by omega)), if_pos (unpackExponent_eq_zero_iff.2 h0),
    dif_pos (unpackMantissa_eq_zero_iff.2 hm), ofBitVec_unpackSign]
  rfl

theorem unpack_allOnes {b : BitVec 64} (h1 : b.toNat / 2 ^ 52 % 2048 = 2047) :
    unpack .binary64 b =
      if b.toNat % 2 ^ 52 = 0 then .infinity (signOf b.toNat) else .notANumber := by
  have he : @unpackExponent .binary64 b = -1#11 := by
    rw [← BitVec.toNat_inj, unpackExponent_toNat, h1]
    rfl
  unfold UnpackedFloat.unpack
  dsimp only
  rw [if_pos he]
  by_cases hm : b.toNat % 2 ^ 52 = 0
  · rw [if_pos (unpackMantissa_eq_zero_iff.2 hm), if_pos hm, ofBitVec_unpackSign]
    rfl
  · rw [if_neg (mt unpackMantissa_eq_zero_iff.1 hm), if_neg hm]

def negOf : Sign → Bool
  | .negative => true
  | .positive => false

def toBinary : UnpackedFloat → Binary
  | .finite s m e _ => .finite (negOf s) m e
  | .zero s => .finite (negOf s) 0 (-1074)
  | .infinity s => .infinite (negOf s)
  | .notANumber => .nan

theorem ofFloat_eq (x : Float) : Binary.ofFloat x = toBinary x.toModel.unpack := by
  have hbits : x.toBits.toNat = x.toModel.toBits.toBitVec.toNat := rfl
  have hsign : Binary.signBit = 2 ^ 63 := rfl
  have hspan : Binary.fractionSpan = 2 ^ 52 := rfl
  have hneg : decide (2 ^ 63 ≤ x.toModel.toBits.toBitVec.toNat) =
      negOf (signOf x.toModel.toBits.toBitVec.toNat) := by
    unfold signOf
    split_ifs with h
    · simp only [negOf, decide_eq_false_iff_not, not_le]
      exact h
    · simp only [negOf, decide_eq_true_iff]
      omega
  unfold Binary.ofFloat
  dsimp only
  rw [hbits, hsign, hspan, hneg]
  simp only [Float.Model.unpack]
  split_ifs with h1 hm h0
  · rw [unpack_allOnes h1, if_pos hm]
    rfl
  · rw [unpack_allOnes h1, if_neg hm]
    rfl
  · by_cases hm : x.toModel.toBits.toBitVec.toNat % 2 ^ 52 = 0
    · rw [unpack_zero h0 hm, hm]
      rfl
    · rw [unpack_subnormal h0 hm]
      rfl
  · rw [unpack_normal h0 h1]
    rfl

def signOfNeg (neg : Bool) : Sign := if neg then .negative else .positive

theorem toNat_ofNat_lt {w : Nat} (hw : w < 2 ^ 64) : (BitVec.ofNat 64 w).toNat = w := by
  rw [BitVec.toNat_ofNat, Nat.mod_eq_of_lt hw]

theorem unpack_fields (neg : Bool) {E F : Nat} (hE : E < 2047) (hF : F < 2 ^ 52) :
    unpack .binary64 (BitVec.ofNat 64 ((if neg then Binary.signBit else 0) + E * 2 ^ 52 + F)) =
      if E = 0 then finiteOrZero (signOfNeg neg) F (-1074)
      else .finite (signOfNeg neg) (F + 2 ^ 52) ((E : Int) - 1075) (by positivity) := by
  have hsb : Binary.signBit = 2 ^ 63 := rfl
  have hw : (if neg then Binary.signBit else 0) + E * 2 ^ 52 + F < 2 ^ 64 := by
    rw [hsb]
    split_ifs <;> omega
  have hE' : ((if neg then Binary.signBit else 0) + E * 2 ^ 52 + F) / 2 ^ 52 % 2048 = E := by
    rw [hsb]
    split_ifs <;> omega
  have hF' : ((if neg then Binary.signBit else 0) + E * 2 ^ 52 + F) % 2 ^ 52 = F := by
    rw [hsb]
    split_ifs <;> omega
  have hs : signOf ((if neg then Binary.signBit else 0) + E * 2 ^ 52 + F) = signOfNeg neg := by
    rw [hsb]
    cases neg
    · simp only [signOf, signOfNeg, Bool.false_eq_true, if_false]
      rw [if_pos (by omega)]
    · simp only [signOf, signOfNeg, if_true]
      rw [if_neg (by omega)]
  generalize (if neg then Binary.signBit else 0) + E * 2 ^ 52 + F = w at hw hE' hF' hs ⊢
  split_ifs with h0
  · by_cases hF0 : F = 0
    · rw [unpack_zero (by rw [toNat_ofNat_lt hw, hE', h0]) (by rw [toNat_ofNat_lt hw, hF', hF0]),
        finiteOrZero, dif_pos hF0, toNat_ofNat_lt hw, hs]
    · rw [unpack_subnormal (by rw [toNat_ofNat_lt hw, hE', h0]) (by rw [toNat_ofNat_lt hw, hF']; exact hF0),
        finiteOrZero, dif_neg hF0]
      simp only [toNat_ofNat_lt hw, hF', hs]
  · rw [unpack_normal (by rw [toNat_ofNat_lt hw, hE']; exact h0) (by rw [toNat_ofNat_lt hw, hE']; omega)]
    simp only [toNat_ofNat_lt hw, hF', hE', hs]

theorem unpack_ofBits (w : Nat) :
    (Float.ofBits (UInt64.ofNat w)).toModel.unpack =
      unpack .binary64 (pack .binary64 (unpack .binary64 (BitVec.ofNat 64 w))) := rfl

theorem pack_unpack (neg : Bool) {q : Nat} {u : Int} (hq : q < 2 ^ 53) (hu : -1074 ≤ u)
    (hu' : u ≤ 971) (hnorm : u = -1074 ∨ 2 ^ 52 ≤ q) :
    (Binary.pack neg q u).toModel.unpack = finiteOrZero (signOfNeg neg) q u := by
  have hc : Canonical (finiteOrZero (signOfNeg neg) q u) := canonical_finiteOrZero hq hu hu' hnorm
  unfold Binary.pack
  dsimp only
  rw [if_neg (by omega)]
  have hspan : Binary.fractionSpan = 2 ^ 52 := rfl
  rw [hspan]
  by_cases hq52 : q < 2 ^ 52
  · -- no exponent field: a subnormal or a zero
    rw [if_pos hq52]
    have hu0 : u = -1074 := by omega
    have := unpack_fields neg (show 0 < 2047 by norm_num) hq52
    rw [zero_mul, add_zero, if_pos rfl] at this
    rw [unpack_ofBits, this, hu0, unpack_pack (hu0 ▸ hc)]
  · rw [if_neg hq52]
    have hE : (u + 1075).toNat < 2047 := by omega
    have := unpack_fields neg hE (show q - 2 ^ 52 < 2 ^ 52 by omega)
    rw [if_neg (show (u + 1075).toNat ≠ 0 by omega)] at this
    have hq' : q - 2 ^ 52 + 2 ^ 52 = q := by omega
    have hu'' : (((u + 1075).toNat : Nat) : Int) - 1075 = u := by omega
    have hfin : finiteOrZero (signOfNeg neg) q u = .finite (signOfNeg neg) q u (by omega) := by
      rw [finiteOrZero, dif_neg (by omega)]
    rw [unpack_ofBits, this]
    simp only [hq', hu'']
    rw [← hfin, unpack_pack hc]

theorem isFinite_toRat_of_unpack {x : Float} {u : UnpackedFloat} (h : x.toModel.unpack = u)
    (hu : Canonical u) : x.isFinite = true ∧ toRat x = value u := by
  rw [Float.isFinite, Float.Model.isFinite, toRat, h]
  exact ⟨isFinite_of_canonical hu, rfl⟩

theorem pack_eq (neg : Bool) {q : Nat} {u : Int} (hq : q < 2 ^ 53) (hu : -1074 ≤ u)
    (hu' : u ≤ 971) (hnorm : u = -1074 ∨ 2 ^ 52 ≤ q) :
    (Binary.pack neg q u).isFinite = true ∧
      toRat (Binary.pack neg q u) = sgn (signOfNeg neg) * q * 2 ^ u := by
  obtain ⟨hf, hv⟩ := isFinite_toRat_of_unpack (pack_unpack neg hq hu hu' hnorm)
    (canonical_finiteOrZero hq hu hu' hnorm)
  exact ⟨hf, by rw [hv, value_finiteOrZero]⟩

theorem shifted_bounds {m j : Nat} {e : Int} (h0 : m ≠ 0) (hj : m.log2 + 1 + j ≤ 53)
    (hjnorm : e - j ≠ -1074 → j = 52 - m.log2) :
    m * 2 ^ j < 2 ^ 53 ∧ (e - j = -1074 ∨ 2 ^ 52 ≤ m * 2 ^ j) := by
  refine ⟨?_, ?_⟩
  · calc m * 2 ^ j < 2 ^ (m.log2 + 1) * 2 ^ j :=
          Nat.mul_lt_mul_of_pos_right Nat.lt_log2_self (by positivity)
      _ = 2 ^ (m.log2 + 1 + j) := (Nat.pow_add _ _ _).symm
      _ ≤ 2 ^ 53 := Nat.pow_le_pow_right (by norm_num) hj
  · by_cases hmin : e - j = -1074
    · exact .inl hmin
    · right
      calc 2 ^ 52 = 2 ^ m.log2 * 2 ^ (52 - m.log2) := by rw [← Nat.pow_add]; congr 1; omega
        _ ≤ m * 2 ^ j := by
          rw [hjnorm hmin]
          exact Nat.mul_le_mul_right _ (Nat.log2_self_le h0)

theorem round_exact (neg : Bool) {m : Nat} {e : Int} (hm : m < 2 ^ 53) (he : -1074 ≤ e)
    (he' : e ≤ 971) :
    (Binary.round neg m e false).isFinite = true ∧
      toRat (Binary.round neg m e false) = sgn (signOfNeg neg) * m * 2 ^ e := by
  unfold Binary.round
  by_cases h0 : m = 0
  · rw [if_pos h0]
    refine (pack_eq neg (show 0 < 2 ^ 53 by norm_num) le_rfl (by norm_num) (.inl rfl)).imp id
      fun hv => ?_
    rw [hv, h0]
    simp
  rw [if_neg h0]
  dsimp only
  simp only [Nat.pow_eq]
  have hlog : m.log2 ≤ 52 := Nat.lt_succ_iff.1 ((Nat.log2_lt h0).2 hm)
  have hu : Binary.unitOf m e ≤ e := by unfold Binary.unitOf; omega
  have hlo : -1074 ≤ Binary.unitOf m e := le_max_right _ _
  -- the mantissa moves up by `j` bits to the unit of its binade
  have hj : m.log2 + 1 + (-(Binary.unitOf m e - e)).toNat ≤ 53 := by unfold Binary.unitOf; omega
  have hjnorm : Binary.unitOf m e ≠ -1074 → (-(Binary.unitOf m e - e)).toNat = 52 - m.log2 := by
    unfold Binary.unitOf
    omega
  rw [if_pos (by omega)]
  generalize Binary.unitOf m e = u at hu hlo hj hjnorm ⊢
  obtain ⟨j, hjdef⟩ : ∃ j : Nat, (-(u - e)).toNat = j := ⟨_, rfl⟩
  rw [hjdef] at hj hjnorm ⊢
  have hue : u = e - j := by omega
  subst hue
  obtain ⟨hq, hnorm⟩ := shifted_bounds h0 hj hjnorm
  refine (pack_eq neg hq hlo (by omega) hnorm).imp id fun hv => ?_
  rw [hv, mul_assoc, shift_value, mul_assoc]

theorem signOfNeg_negOf (s : Sign) : signOfNeg (negOf s) = s := by
  cases s <;> rfl

theorem ofFloat_finite {x : Float} (hx : x.isFinite = true) :
    ∃ neg m e, Binary.ofFloat x = .finite neg m e ∧ m < 2 ^ 53 ∧ -1074 ≤ e ∧ e ≤ 971 ∧
      toRat x = sgn (signOfNeg neg) * m * 2 ^ e := by
  have hc := canonical_of_isFinite hx
  rw [ofFloat_eq, toRat]
  cases h : x.toModel.unpack with
  | finite s m e hm =>
    rw [h] at hc
    exact ⟨negOf s, m, e, rfl, hc.lt_two_pow, hc.le_exponent, hc.2, by rw [signOfNeg_negOf]; rfl⟩
  | zero s => exact ⟨negOf s, 0, -1074, rfl, by norm_num, le_rfl, by norm_num, by simp [value]⟩
  | infinity s => rw [h] at hc; exact absurd hc id
  | notANumber => rw [h] at hc; exact absurd hc id

theorem abs_sgn (s : Sign) : |sgn s| = 1 := by
  cases s <;> simp [sgn]

theorem natMod_mul_zpow (a b : Nat) (e : Int) :
    ((a % b : Nat) : ℚ) * 2 ^ e = a * 2 ^ e - b * 2 ^ e * ⌊((a : ℚ) * 2 ^ e) / (b * 2 ^ e)⌋ := by
  have hdiv : ((a : ℚ) * 2 ^ e) / (b * 2 ^ e) = (a : ℚ) / b := by
    rw [mul_div_mul_right _ _ (by positivity)]
  have hfloor : ⌊(a : ℚ) / b⌋ = ((a / b : Nat) : Int) := by
    rw [Rat.floor_natCast_div_natCast]
    norm_cast
  have hsplit : ((a % b : Nat) : ℚ) = a - b * ((a / b : Nat) : ℚ) := by
    have := Nat.mod_add_div a b
    rw [eq_sub_iff_add_eq]
    exact_mod_cast this
  rw [hdiv, hfloor, hsplit, Int.cast_natCast]
  ring

theorem align_value (m : Nat) {e t : Int} (ht : t ≤ e) :
    (m : ℚ) * 2 ^ e = ((m * 2 ^ (e - t).toNat : Nat) : ℚ) * 2 ^ t := by
  have := shift_value m (e - t).toNat e
  rwa [show e - ((e - t).toNat : Int) = t by omega, eq_comm] at this

theorem truncRem_eq {x y : Float} (hx : x.isFinite = true) (hy : y.isFinite = true)
    (hy0 : toRat y ≠ 0) :
    (Float.truncRem x y).isFinite = true ∧
      toRat (Float.truncRem x y) =
        (if toRat x < 0 then -1 else 1) * (|toRat x| - |toRat y| * ⌊|toRat x| / |toRat y|⌋) := by
  obtain ⟨nx, mx, ex, hxb, hmx, hex, hex', hX⟩ := ofFloat_finite hx
  obtain ⟨ny, my, ey, hyb, hmy, hey, hey', hY⟩ := ofFloat_finite hy
  have hmy0 : my ≠ 0 := by
    rintro rfl
    apply hy0
    rw [hY]
    simp
  -- both operands on the unit of the smaller exponent
  have hXabs : |toRat x| = ((mx * 2 ^ (ex - min ex ey).toNat : Nat) : ℚ) * 2 ^ min ex ey := by
    rw [hX, mul_assoc, abs_mul, abs_sgn, one_mul, abs_of_nonneg (by positivity),
      align_value mx (min_le_left ex ey)]
  have hYabs : |toRat y| = ((my * 2 ^ (ey - min ex ey).toNat : Nat) : ℚ) * 2 ^ min ex ey := by
    rw [hY, mul_assoc, abs_mul, abs_sgn, one_mul, abs_of_nonneg (by positivity),
      align_value my (min_le_right ex ey)]
  have hm : mx * 2 ^ (ex - min ex ey).toNat % (my * 2 ^ (ey - min ex ey).toNat) < 2 ^ 53 := by
    rcases min_choice ex ey with he | he <;> rw [he]
    · rw [sub_self, Int.toNat_zero, pow_zero, mul_one]
      exact (Nat.mod_le _ _).trans_lt hmx
    · rw [sub_self, Int.toNat_zero, pow_zero, mul_one]
      exact (Nat.mod_lt _ (Nat.pos_of_ne_zero hmy0)).trans hmy
  have htr : Float.truncRem x y = Binary.round nx
      (mx * 2 ^ (ex - min ex ey).toNat % (my * 2 ^ (ey - min ex ey).toNat)) (min ex ey) false := by
    unfold Float.truncRem
    rw [hxb, hyb]
    dsimp only
    rw [if_neg hmy0]
    rfl
  obtain ⟨hfin, hval⟩ := round_exact nx hm (le_min hex hey) ((min_le_left ex ey).trans hex')
  refine ⟨htr ▸ hfin, ?_⟩
  rw [htr, hval, hXabs, hYabs, ← natMod_mul_zpow, mul_assoc]
  -- the sign of a non-zero remainder is the sign flag of `x`
  by_cases hmx0 : mx = 0
  · simp [hmx0]
  · congr 1
    have hpos : (0 : ℚ) < mx * 2 ^ ex := by positivity
    cases nx
    · simp only [signOfNeg, Bool.false_eq_true, if_false, sgn] at hX ⊢
      rw [if_neg (by rw [hX]; linarith)]
    · simp only [signOfNeg, if_true, sgn] at hX ⊢
      rw [if_pos (by rw [hX]; linarith)]

theorem unpack_zero_lit : (0.0 : Float).toModel.unpack = .zero .positive := rfl

theorem zero_lit : (0.0 : Float).isFinite = true ∧ toRat 0.0 = 0 :=
  isFinite_toRat_of_unpack unpack_zero_lit trivial

section FloorRem

variable {X Y : ℚ}

theorem truncRem_mem (hY : 0 < Y) : 0 ≤ |X| - Y * ⌊|X| / Y⌋ ∧ |X| - Y * ⌊|X| / Y⌋ < Y := by
  have hfl := Int.floor_le (|X| / Y)
  have hfl' := Int.lt_floor_add_one (|X| / Y)
  rw [show |X| - Y * ⌊|X| / Y⌋ = Y * (|X| / Y - ⌊|X| / Y⌋) by rw [mul_sub, mul_div_cancel₀ _ hY.ne']]
  exact ⟨mul_nonneg hY.le (by linarith), mul_lt_of_lt_one_right hY (by linarith)⟩

theorem sub_floor_eq_zero (hY : 0 < Y) (hR : |X| - Y * ⌊|X| / Y⌋ = 0) : X - Y * ⌊X / Y⌋ = 0 := by
  have hint : |X| / Y = ⌊|X| / Y⌋ := by
    have : Y * (|X| / Y - ⌊|X| / Y⌋) = 0 := by rw [mul_sub, mul_div_cancel₀ _ hY.ne', hR]
    rcases mul_eq_zero.1 this with h | h
    · exact absurd h hY.ne'
    · linarith
  rcases le_or_gt 0 X with hX | hX
  · rwa [abs_of_nonneg hX] at hR
  · have hdiv : X / Y = ((-⌊|X| / Y⌋ : Int) : ℚ) := by
      rw [Int.cast_neg, ← hint, abs_of_neg hX, neg_div, neg_neg]
    rw [hdiv, Int.floor_intCast, Int.cast_neg]
    have := abs_of_neg hX
    linarith

theorem neg_add_eq_sub_floor (hY : 0 < Y) (hX : X < 0) (hR : |X| - Y * ⌊|X| / Y⌋ ≠ 0) :
    -(|X| - Y * ⌊|X| / Y⌋) + Y = X - Y * ⌊X / Y⌋ := by
  have hfl := Int.floor_le (|X| / Y)
  have hfl' := Int.lt_floor_add_one (|X| / Y)
  have hnotint : |X| / Y ≠ ⌊|X| / Y⌋ := fun h =>
    hR (by rw [← h, mul_div_cancel₀ _ hY.ne', sub_self])
  have hceil : ⌈|X| / Y⌉ = ⌊|X| / Y⌋ + 1 := by
    rw [Int.ceil_eq_iff]
    push_cast
    exact ⟨by linarith [lt_of_le_of_ne hfl (Ne.symm hnotint)], hfl'.le⟩
  have hdiv : X / Y = -(|X| / Y) := by rw [abs_of_neg hX, neg_div, neg_neg]
  rw [hdiv, Int.floor_neg, hceil, abs_of_neg hX]
  push_cast
  ring

end FloorRem

/-- The floored remainder by a positive divisor is the exact floored remainder, rounded once: a
negative `x` adds the divisor to its truncated remainder, and that sum is what may round. -/
theorem floorRem_eq {x y : Float} (hx : x.isFinite = true) (hy : y.isFinite = true)
    (hy0 : 0 < toRat y) (hy1 : toRat y < 2 ^ 1023) :
    (Float.floorRem x y).isFinite = true ∧
      toRat (Float.floorRem x y) = round64 (toRat x - toRat y * ⌊toRat x / toRat y⌋) := by
  obtain ⟨hrf, hr⟩ := truncRem_eq hx hy hy0.ne'
  rw [abs_of_pos hy0] at hr
  have hzf := zero_lit.1
  have hz := zero_lit.2
  have hyz : (y == 0.0) = false := by
    rw [Bool.eq_false_iff, ne_eq, beq_iff hy hzf, hz]
    exact hy0.ne'
  have hyneg : ¬y < 0.0 := by
    rw [lt_iff hy hzf, hz]
    exact not_lt.2 hy0.le
  obtain ⟨hR0, hRy⟩ : 0 ≤ |toRat x| - toRat y * ⌊|toRat x| / toRat y⌋ ∧
      |toRat x| - toRat y * ⌊|toRat x| / toRat y⌋ < toRat y := truncRem_mem hy0
  unfold Float.floorRem
  rw [if_neg (by simp [hyz])]
  dsimp only
  by_cases hR : |toRat x| - toRat y * ⌊|toRat x| / toRat y⌋ = 0
  · -- an exact multiple: the result is the zero of the divisor's sign
    have hr0 : (Float.truncRem x y == 0.0) = true := by
      rw [beq_iff hrf hzf, hz, hr, hR, mul_zero]
    rw [if_pos hr0, if_neg hyneg]
    exact ⟨hzf, by rw [hz, sub_floor_eq_zero hy0 hR, round64_zero]⟩
  · have hr0 : (Float.truncRem x y == 0.0) = false := by
      rw [Bool.eq_false_iff, ne_eq, beq_iff hrf hzf, hz, hr]
      intro h
      apply hR
      split_ifs at h <;> linarith
    rw [if_neg (by simp [hr0])]
    rcases le_or_gt 0 (toRat x) with hx0 | hx0
    · -- a non-negative `x` keeps its exact remainder
      have hrneg : ¬Float.truncRem x y < 0.0 := by
        rw [lt_iff hrf hzf, hz, hr, if_neg (not_lt.2 hx0), one_mul]
        exact not_lt.2 hR0
      rw [if_neg (by simp [hyneg, hrneg])]
      refine ⟨hrf, ?_⟩
      rw [← round64_toRat hrf, hr, if_neg (not_lt.2 hx0), one_mul, abs_of_nonneg hx0]
    · -- a negative `x` moves its remainder up by the divisor
      have hRpos : 0 < |toRat x| - toRat y * ⌊|toRat x| / toRat y⌋ := lt_of_le_of_ne hR0 (Ne.symm hR)
      have hrneg : Float.truncRem x y < 0.0 := by
        rw [lt_iff hrf hzf, hz, hr, if_pos hx0]
        linarith
      rw [if_pos (by simp [hyneg, hrneg])]
      have habs : |toRat (Float.truncRem x y) + toRat y| < 2 ^ 1023 := by
        rw [hr, if_pos hx0, abs_of_nonneg (by linarith)]
        exact lt_of_le_of_lt (by linarith) hy1
      obtain ⟨hfin, hval⟩ := add_eq hrf hy habs
      refine ⟨hfin, ?_⟩
      rw [hval, hr, if_pos hx0, neg_one_mul, neg_add_eq_sub_floor hy0 hx0 hR]

theorem floorRem_eq_of_nonneg {x y : Float} (hx : x.isFinite = true) (hy : y.isFinite = true)
    (hx0 : 0 ≤ toRat x) (hy0 : 0 < toRat y) (hy1 : toRat y < 2 ^ 1023) :
    (Float.floorRem x y).isFinite = true ∧
      toRat (Float.floorRem x y) = toRat x - toRat y * ⌊toRat x / toRat y⌋ := by
  obtain ⟨hrf, hr⟩ := truncRem_eq hx hy hy0.ne'
  have hexact : toRat x - toRat y * ⌊toRat x / toRat y⌋ = toRat (Float.truncRem x y) := by
    rw [hr, if_neg (not_lt.2 hx0), one_mul, abs_of_nonneg hx0, abs_of_pos hy0]
  obtain ⟨hfin, hv⟩ := floorRem_eq hx hy hy0 hy1
  exact ⟨hfin, by rw [hv, hexact, round64_toRat hrf]⟩

theorem roundInt_eq {x : Float} (hx : x.isFinite = true) :
    Float.roundInt x = .ok (rne (toRat x)) := by
  obtain ⟨neg, m, e, hb, -, -, -, hval⟩ := ofFloat_finite hx
  unfold Float.roundInt
  rw [hb, hval]
  simp only [Nat.pow_eq]
  -- the sign comes off both sides
  cases neg <;> simp only [signOfNeg, sgn, if_true, Bool.false_eq_true, if_false, Except.ok.injEq,
    neg_mul, one_mul, rne_neg, neg_inj]
  all_goals
    rcases le_or_gt 0 e with he | he
    · have hexact : (m : ℚ) * 2 ^ e = ((m * 2 ^ e.toNat : ℕ) : ℤ) := by
        push_cast
        rw [← zpow_natCast, Int.toNat_of_nonneg he]
      rw [if_pos he, hexact, rne_intCast]
    · obtain ⟨k, hk⟩ : ∃ k, (-e).toNat = k + 1 := ⟨(-e).toNat - 1, by omega⟩
      have hdiv : (m : ℚ) * 2 ^ e = m / 2 ^ (k + 1) := by
        rw [div_eq_mul_inv, ← zpow_natCast, ← zpow_neg, ← hk, Int.toNat_of_nonneg (by omega), neg_neg]
      rw [if_neg (not_le.2 he), hk, hdiv, rne_div_two_pow, Nat.pow_succ]
      -- the remainder against half the divisor decides, as in the rounding of a rational
      generalize m / (2 ^ k * 2) = q
      generalize m % (2 ^ k * 2) = r
      generalize 2 ^ k = K
      split_ifs <;> omega

end SpinLidar.Rounding
