import SpinLidar.Proofs.FloatRemainder

namespace SpinLidar.Rounding

open Float.Model UnpackedFloat

def signOfRat (q : ℚ) : Sign := if q < 0 then .negative else .positive

/-- A float holds the binary64 rounding of `q`: the rounded value while it stays below `2 ^ 1024`
in magnitude, and an infinity of the sign of `q` once it reaches it. -/
structure RoundsTo (x : Float) (q : ℚ) : Prop where
  finite : |round64 q| < 2 ^ 1024 → x.isFinite = true ∧ toRat x = round64 q
  overflow : 2 ^ 1024 ≤ |round64 q| → x.toModel.unpack = .infinity (signOfRat q)

theorem round64_sgn_mul (s : Sign) (x : ℚ) : round64 (sgn s * x) = sgn s * round64 x := by
  cases s <;> simp [sgn, round64_neg]

theorem signOfRat_sgn_mul (s : Sign) {x : ℚ} (hx : 0 < x) : signOfRat (sgn s * x) = s := by
  cases s with
  | positive => rw [sgn, one_mul, signOfRat, if_neg (not_lt.2 hx.le)]
  | negative => rw [sgn, neg_one_mul, signOfRat, if_pos (neg_neg_of_pos hx)]

theorem signOfRat_neg {q : ℚ} (hq : q ≠ 0) : signOfRat (-q) = -signOfRat q := by
  rcases hq.lt_or_gt with h | h
  · simp [signOfRat, h, not_lt.2 (neg_nonneg.2 h.le)]
    rfl
  · simp [signOfRat, h, not_lt.2 h.le]
    rfl

def maxFinite : ℚ := (2 ^ 53 - 1) * 2 ^ 971

theorem maxFinite_lt : maxFinite < 2 ^ 1024 := by
  rw [maxFinite, show (2 : ℚ) ^ 1024 = 2 ^ 53 * 2 ^ 971 from pow_add 2 53 971]
  exact mul_lt_mul_of_pos_right (by norm_num) (by positivity)

theorem abs_value_le {u : UnpackedFloat} (hu : Canonical u) : |value u| ≤ maxFinite := by
  cases u with
  | finite s m e hm =>
    have hm' : (m : ℚ) ≤ 2 ^ 53 - 1 := by
      have : ((m + 1 : Nat) : ℚ) ≤ 2 ^ 53 := by exact_mod_cast hu.lt_two_pow
      push_cast at this
      linarith
    have he : (2 : ℚ) ^ e ≤ 2 ^ (971 : Int) := zpow_le_zpow_right₀ (by norm_num) hu.2
    rw [value, abs_mul, abs_mul, abs_sgn, one_mul, abs_of_nonneg (by positivity),
      abs_of_nonneg (by positivity), maxFinite]
    exact mul_le_mul hm' (by simpa using he) (by positivity) (by norm_num)
  | zero s => norm_num [value, maxFinite]
  | infinity _ => exact absurd hu id
  | notANumber => exact absurd hu id

theorem abs_toRat_le {x : Float} (hx : x.isFinite = true) : |toRat x| ≤ maxFinite :=
  abs_value_le (canonical_of_isFinite hx)

theorem roundsTo_of_value {u : UnpackedFloat} {q : ℚ} (hu : Canonical u) (h : value u = round64 q) :
    RoundsTo (Float.ofModel (Float.Model.pack u)) q := by
  have hlt : |round64 q| < 2 ^ 1024 := h ▸ (abs_value_le hu).trans_lt maxFinite_lt
  exact ⟨fun _ => (ofModel_pack hu).imp id fun hv => hv.trans h, fun h' => absurd h' (not_le.2 hlt)⟩

theorem roundsTo_canonical {u : UnpackedFloat} (hu : Canonical u) :
    RoundsTo (Float.ofModel (Float.Model.pack u)) (value u) :=
  roundsTo_of_value hu (round64_value hu).symm

theorem unpack_pack_infinity (s : Sign) :
    unpack .binary64 (pack .binary64 (.infinity s)) = .infinity s := by
  cases s <;> rfl

theorem unpack_pack_overflow (s : Sign) {m : Nat} {e : Int} (hm : 0 < m) (he : 972 ≤ e) :
    unpack .binary64 (pack .binary64 (.finite s m e hm)) = .infinity s := by
  have hb : 2 ^ 11 ≤ (e + ↑(2 ^ (11 - 1) - 1 : Nat) + ↑(52 : Nat)).toNat + 1 := by omega
  simp only [UnpackedFloat.pack, Format.exponentBias, hb, if_true]
  exact unpack_pack_infinity s

theorem roundWithAccuracy_shape (s : Sign) {m : Nat} {e : Int} (hm : 0 < m) (he : e ≤ target m e) :
    ∃ q t, roundWithAccuracy .binary64 s m e .exact = finiteOrZero s q t ∧ q < 2 ^ 53 ∧
      -1074 ≤ t ∧ (t = -1074 ∨ 2 ^ 52 ≤ q) := by
  have hmin : -1074 ≤ target m e := le_max_right _ _
  rw [roundWithAccuracy_eq s hm he]
  split_ifs with h53
  · exact ⟨2 ^ 52, target m e + 1, rfl, by norm_num, by omega, .inr le_rfl⟩
  · have hle := rne_le_two_pow m e
    refine ⟨_, _, rfl, by omega, hmin, ?_⟩
    rcases hmin.lt_or_eq with hlt | heq
    · have := two_pow_le_rne hm he hlt
      exact .inr (by omega)
    · exact .inl heq.symm

/-- A float of at most 53 mantissa bits holds the rounding of `r` when its value is that
rounding: up to exponent `971` it is finite, past it the rounding has reached `2 ^ 1024` and the
float packs to an infinity. -/
theorem roundsTo_finiteOrZero {s : Sign} {q : Nat} {t : Int} {r : ℚ} (hq : q < 2 ^ 53)
    (ht : -1074 ≤ t) (hn : t = -1074 ∨ 2 ^ 52 ≤ q) (hr : round64 r = sgn s * q * 2 ^ t)
    (hs : 0 < q → signOfRat r = s) :
    RoundsTo (Float.ofModel (Float.Model.pack (finiteOrZero s q t))) r := by
  have habs : |round64 r| = q * 2 ^ t := by
    rw [hr, mul_assoc, abs_mul, abs_sgn, one_mul, abs_of_nonneg (by positivity)]
  by_cases hin : t ≤ 971
  · exact roundsTo_of_value (canonical_finiteOrZero hq ht hin hn) (by rw [value_finiteOrZero, hr])
  · have hq52 : 2 ^ 52 ≤ q := hn.resolve_left (by omega)
    have hq0 : 0 < q := lt_of_lt_of_le (by norm_num) hq52
    have hge : (2 : ℚ) ^ 1024 ≤ q * 2 ^ t := by
      calc (2 : ℚ) ^ 1024 = (2 : ℚ) ^ 52 * (2 : ℚ) ^ ((972 : Nat) : Int) := by
            rw [zpow_natCast, ← pow_add]
        _ ≤ (q : ℚ) * 2 ^ t := by
          gcongr
          · exact_mod_cast hq52
          · norm_num
          · omega
    refine ⟨fun h => absurd (habs ▸ h) (not_lt.2 hge), fun _ => ?_⟩
    rw [hs hq0]
    show unpack .binary64 (pack .binary64 (finiteOrZero s q t)) = _
    rw [finiteOrZero, dif_neg hq0.ne']
    exact unpack_pack_overflow s hq0 (by omega)

theorem roundsTo_roundWithAccuracy (s : Sign) {m : Nat} {e : Int} (hm : 0 < m)
    (he : e ≤ target m e) :
    RoundsTo (Float.ofModel (Float.Model.pack (roundWithAccuracy .binary64 s m e .exact)))
      (sgn s * (m * 2 ^ e)) := by
  obtain ⟨q, t, hu, hq, ht, hn⟩ := roundWithAccuracy_shape s hm he
  have hval := value_roundWithAccuracy s hm he
  rw [hu, value_finiteOrZero] at hval
  rw [hu]
  exact roundsTo_finiteOrZero hq ht hn (by rw [round64_sgn_mul, ← hval])
    fun _ => signOfRat_sgn_mul s (by positivity)

theorem roundsTo_round (s : Sign) {m : Nat} (hm : 0 < m) (e : Int) :
    RoundsTo (Float.ofModel (Float.Model.pack (UnpackedFloat.round .binary64 s m e)))
      (sgn s * (m * 2 ^ e)) := by
  have ht := target_shift hm (e - target m e).toNat e
  rw [round_eq, ← shift_value m (e - target m e).toNat e]
  exact roundsTo_roundWithAccuracy s (by positivity) (by rw [ht]; omega)

theorem roundsTo_normalize (n e : Int) (z : Sign) :
    RoundsTo (Float.ofModel (Float.Model.pack (UnpackedFloat.normalize .binary64 n e z)))
      (n * 2 ^ e) := by
  unfold UnpackedFloat.normalize
  rcases lt_trichotomy n 0 with hn | rfl | hn
  · rw [Int.compare_eq_lt.2 hn]
    have hcast : (((-n).toNat : Nat) : ℚ) = -n := by
      have : (((-n).toNat : Nat) : Int) = -n := by omega
      exact_mod_cast this
    have h := roundsTo_round .negative (show 0 < (-n).toNat by omega) e
    rwa [hcast, sgn, neg_one_mul, ← neg_mul, neg_neg] at h
  · simpa [value] using roundsTo_canonical (show Canonical (.zero z) from trivial)
  · rw [Int.compare_eq_gt.2 hn]
    have hcast : ((n.toNat : Nat) : ℚ) = n := by
      have : ((n.toNat : Nat) : Int) = n := by omega
      exact_mod_cast this
    have h := roundsTo_round .positive (show 0 < n.toNat by omega) e
    rwa [hcast, sgn, one_mul] at h

section Operations

variable {x y : Float}

theorem add_roundsTo (hx : x.isFinite = true) (hy : y.isFinite = true) :
    RoundsTo (x + y) (toRat x + toRat y) := by
  have cx := canonical_of_isFinite hx
  have cy := canonical_of_isFinite hy
  show RoundsTo (Float.ofModel (Float.Model.pack (add .binary64 x.toModel.unpack y.toModel.unpack)))
    (value x.toModel.unpack + value y.toModel.unpack)
  generalize x.toModel.unpack = u at cx ⊢
  generalize y.toModel.unpack = v at cy ⊢
  cases u with
  | infinity _ => exact absurd cx id
  | notANumber => exact absurd cx id
  | zero s =>
    cases v with
    | infinity _ => exact absurd cy id
    | notANumber => exact absurd cy id
    | zero s' =>
      rw [add_zeros]
      exact roundsTo_of_value trivial (by simp only [value_zero, add_zero, round64_zero])
    | finite s' m e hm => exact roundsTo_of_value cy (by rw [value_zero, zero_add, round64_value cy]; rfl)
  | finite s m e hm =>
    cases v with
    | infinity _ => exact absurd cy id
    | notANumber => exact absurd cy id
    | zero s' => exact roundsTo_of_value cx (by rw [value_zero, add_zero, round64_value cx]; rfl)
    | finite s' m' e' hm' =>
      rw [← aligned_add_value s s' hm hm']
      exact roundsTo_normalize _ _ _

theorem sub_roundsTo (hx : x.isFinite = true) (hy : y.isFinite = true) :
    RoundsTo (x - y) (toRat x - toRat y) := by
  have cx := canonical_of_isFinite hx
  have cy := canonical_of_isFinite hy
  show RoundsTo (Float.ofModel (Float.Model.pack (sub .binary64 x.toModel.unpack y.toModel.unpack)))
    (value x.toModel.unpack - value y.toModel.unpack)
  generalize x.toModel.unpack = u at cx ⊢
  generalize y.toModel.unpack = v at cy ⊢
  cases u with
  | infinity _ => exact absurd cx id
  | notANumber => exact absurd cx id
  | zero s =>
    cases v with
    | infinity _ => exact absurd cy id
    | notANumber => exact absurd cy id
    | zero s' =>
      rw [sub_zeros]
      exact roundsTo_of_value trivial (by simp only [value_zero, sub_zero, round64_zero])
    | finite s' m e hm =>
      -- zero minus a finite float is the float with its sign flipped
      show RoundsTo (Float.ofModel (Float.Model.pack (.finite (-s') m e hm))) _
      exact roundsTo_of_value cy (by
        rw [value_finite_neg, value_zero, zero_sub, round64_neg, round64_value cy])
  | finite s m e hm =>
    cases v with
    | infinity _ => exact absurd cy id
    | notANumber => exact absurd cy id
    | zero s' => exact roundsTo_of_value cx (by rw [value_zero, sub_zero, round64_value cx]; rfl)
    | finite s' m' e' hm' =>
      rw [← aligned_sub_value s s' hm hm']
      exact roundsTo_normalize _ _ _

theorem mul_roundsTo (hx : x.isFinite = true) (hy : y.isFinite = true) :
    RoundsTo (x * y) (toRat x * toRat y) := by
  have cx := canonical_of_isFinite hx
  have cy := canonical_of_isFinite hy
  show RoundsTo (Float.ofModel (Float.Model.pack (mul .binary64 x.toModel.unpack y.toModel.unpack)))
    (value x.toModel.unpack * value y.toModel.unpack)
  generalize x.toModel.unpack = u at cx ⊢
  generalize y.toModel.unpack = v at cy ⊢
  cases u with
  | infinity _ => exact absurd cx id
  | notANumber => exact absurd cx id
  | zero s =>
    cases v with
    | infinity _ => exact absurd cy id
    | notANumber => exact absurd cy id
    | zero s' => exact roundsTo_of_value trivial (by rw [value_zero, zero_mul, round64_zero]; rfl)
    | finite s' m e hm => exact roundsTo_of_value trivial (by rw [value_zero, zero_mul, round64_zero]; rfl)
  | finite s m e hm =>
    cases v with
    | infinity _ => exact absurd cy id
    | notANumber => exact absurd cy id
    | zero s' => exact roundsTo_of_value trivial (by rw [value_zero, mul_zero, round64_zero]; rfl)
    | finite s' m' e' hm' =>
      rw [value_mul_finite]
      exact roundsTo_roundWithAccuracy (s * s') (Nat.mul_pos hm hm') (exponent_le_target_mul cx cy)

theorem canonical_neg {u : UnpackedFloat} (hu : Canonical u) : Canonical u.neg := by
  cases u with
  | finite s m e hm => exact hu
  | zero s => trivial
  | infinity _ => exact absurd hu id
  | notANumber => exact absurd hu id

theorem value_neg_unpacked (u : UnpackedFloat) : value u.neg = -value u := by
  cases u with
  | finite s m e hm => exact value_finite_neg s e hm
  | zero s => simp [UnpackedFloat.neg, value]
  | infinity _ => simp [UnpackedFloat.neg, value]
  | notANumber => simp [UnpackedFloat.neg, value]

theorem RoundsTo.neg {q : ℚ} (h : RoundsTo x q) : RoundsTo (-x) (-q) := by
  refine ⟨fun hlt => ?_, fun hge => ?_⟩
  · rw [round64_neg, abs_neg] at hlt
    obtain ⟨hf, hv⟩ := h.finite hlt
    have hc := canonical_neg (canonical_of_isFinite hf)
    obtain ⟨hf', hv'⟩ := ofModel_pack hc
    refine ⟨hf', ?_⟩
    show toRat (Float.ofModel (Float.Model.pack x.toModel.unpack.neg)) = _
    rw [hv', value_neg_unpacked, round64_neg, ← hv]
    rfl
  · rw [round64_neg, abs_neg] at hge
    have hq : q ≠ 0 := by
      rintro rfl
      rw [round64_zero, abs_zero] at hge
      exact absurd hge (not_le.2 (by positivity))
    show unpack .binary64 (pack .binary64 x.toModel.unpack.neg) = _
    rw [h.overflow hge, signOfRat_neg hq]
    exact unpack_pack_infinity _

theorem ofNat_roundsTo (n : Nat) : RoundsTo (Float.ofNat n) n := by
  by_cases hn : n < 2 ^ 53
  · obtain ⟨hf, hv⟩ := ofNat_eq hn
    have hr : round64 (n : ℚ) = n := by
      simpa using round64_exact (show |(n : Int)| < 2 ^ 53 by simpa using hn)
        (show (-1074 : Int) ≤ 0 by norm_num)
    have hlt : |round64 (n : ℚ)| < 2 ^ 1024 := by
      rw [hr, abs_of_nonneg (by positivity)]
      calc (n : ℚ) < 2 ^ 53 := by exact_mod_cast hn
        _ < 2 ^ 1024 := pow_lt_pow_right₀ (by norm_num) (by norm_num)
    exact ⟨fun _ => ⟨hf, hv.trans hr.symm⟩, fun h => absurd h (not_le.2 hlt)⟩
  · -- past 53 bits the conversion multiplies the integer, shifted up 53 bits, by `10 ^ 0`
    have hsplit : Float.ofNat n = Float.ofModel (Float.Model.pack
        (roundWithAccuracy .binary64 .positive (n * 2 ^ 53 * 1) (-53 + 0) .exact)) := by
      show Float.ofScientific n false 0 = _
      rw [Float.ofScientific, dif_neg (fun h => hn h.1)]
      show Float.ofModel (Float.Model.pack (UnpackedFloat.ofScientific .binary64 n 0)) = _
      have hbits : (0 : Int) ≤ 2 ^ Format.binary64.exponentBits := by positivity
      rw [UnpackedFloat.ofScientific, dif_neg (by omega), if_neg (by decide), if_neg (by omega),
        if_pos le_rfl]
      simp only [UnpackedFloat.mul, Nat.shiftLeft_eq, Format.mantissaBits]
      rfl
    have hbig : 2 ^ 53 ≤ n * 2 ^ 53 * 1 := by
      rw [Nat.mul_one]
      exact Nat.le_mul_of_pos_left _ (by omega)
    have htarget : -53 + 0 ≤ target (n * 2 ^ 53 * 1) (-53 + 0) := by
      have h53 : 53 ≤ (n * 2 ^ 53 * 1).log2 := (Nat.le_log2 (by omega)).2 hbig
      unfold target
      omega
    have h := roundsTo_roundWithAccuracy .positive (by omega) htarget
    rw [hsplit]
    convert h using 1
    rw [sgn, one_mul]
    push_cast
    norm_num [zpow_neg, mul_assoc]

theorem ofInt_roundsTo (i : Int) : RoundsTo (Float.ofInt i) i := by
  cases i with
  | ofNat n =>
    show RoundsTo (Float.ofNat n) ((n : Int) : ℚ)
    rw [Int.cast_natCast]
    exact ofNat_roundsTo n
  | negSucc n =>
    have h := (ofNat_roundsTo (n + 1)).neg
    rw [Int.cast_negSucc]
    exact h

end Operations

noncomputable def erealValue : UnpackedFloat → EReal
  | .finite s m e hm => ((value (.finite s m e hm) : ℚ) : ℝ)
  | .zero _ => 0
  | .infinity .positive => ⊤
  | .infinity .negative => ⊥
  | .notANumber => 0

noncomputable def toEReal (x : Float) : EReal := erealValue x.toModel.unpack

theorem erealValue_of_canonical {u : UnpackedFloat} (hu : Canonical u) :
    erealValue u = ((value u : ℚ) : ℝ) := by
  cases u with
  | finite s m e hm => rfl
  | zero s => simp [erealValue, value]
  | infinity _ => exact absurd hu id
  | notANumber => exact absurd hu id

section Extended

variable {x y : Float}

theorem toEReal_of_isFinite (hx : x.isFinite = true) : toEReal x = ((toRat x : ℚ) : ℝ) :=
  erealValue_of_canonical (canonical_of_isFinite hx)

theorem isFinite_or_infinity (hx : x.isNaN = false) :
    x.isFinite = true ∨ ∃ s, x.toModel.unpack = .infinity s := by
  change x.toModel.unpack.isNaN = false at hx
  show x.toModel.unpack.isFinite = true ∨ _
  cases h : x.toModel.unpack with
  | finite s m e hm => exact Or.inl rfl
  | zero s => exact Or.inl rfl
  | infinity s => exact Or.inr ⟨s, rfl⟩
  | notANumber => rw [h] at hx; exact absurd hx (by decide)

theorem isNaN_of_isFinite (hx : x.isFinite = true) : x.isNaN = false := by
  change x.toModel.unpack.isFinite = true at hx
  show x.toModel.unpack.isNaN = false
  cases h : x.toModel.unpack with
  | notANumber => rw [h] at hx; exact absurd hx (by decide)
  | _ => rfl

theorem isNaN_of_infinity {s : Sign} (hx : x.toModel.unpack = .infinity s) : x.isNaN = false := by
  show x.toModel.unpack.isNaN = false
  rw [hx]
  rfl

theorem RoundsTo.isNaN {q : ℚ} (h : RoundsTo x q) : x.isNaN = false := by
  by_cases hlt : |round64 q| < 2 ^ 1024
  · exact isNaN_of_isFinite (h.finite hlt).1
  · exact isNaN_of_infinity (h.overflow (not_lt.1 hlt))

end Extended

theorem compare_infinity_right {u : UnpackedFloat} (hu : Canonical u) (s : Sign) :
    u.compare (.infinity s) = some (match s with | .positive => .lt | .negative => .gt) := by
  cases u with
  | finite s' m e hm => cases s <;> cases s' <;> rfl
  | zero s' => cases s <;> rfl
  | infinity _ => exact absurd hu id
  | notANumber => exact absurd hu id

theorem compare_infinity_left {u : UnpackedFloat} (hu : Canonical u) (s : Sign) :
    (UnpackedFloat.infinity s).compare u =
      some (match s with | .positive => .gt | .negative => .lt) := by
  cases u with
  | finite s' m e hm => cases s <;> cases s' <;> rfl
  | zero s' => cases s <;> rfl
  | infinity _ => exact absurd hu id
  | notANumber => exact absurd hu id

theorem lt_iff_erealValue {u v : UnpackedFloat} (hu : Canonical u ∨ ∃ s, u = .infinity s)
    (hv : Canonical v ∨ ∃ s, v = .infinity s) : u.lt v = true ↔ erealValue u < erealValue v := by
  rw [UnpackedFloat.lt, beq_iff_eq]
  rcases hu with cu | ⟨s, rfl⟩ <;> rcases hv with cv | ⟨s', rfl⟩
  · rw [compare_canonical cu cv, Option.some.injEq, compare_lt_iff_lt, erealValue_of_canonical cu,
      erealValue_of_canonical cv, EReal.coe_lt_coe_iff, Rat.cast_lt]
  · rw [compare_infinity_right cu, erealValue_of_canonical cu]
    cases s' <;> simp [erealValue, EReal.coe_lt_top]
  · rw [compare_infinity_left cv, erealValue_of_canonical cv]
    cases s <;> simp [erealValue, EReal.bot_lt_coe]
  · have hsign : compare Sign.negative Sign.positive = .lt := rfl
    cases s <;> cases s' <;> simp [UnpackedFloat.compare, erealValue, hsign]

section Extended

variable {x y : Float}

theorem canonical_or_infinity (hx : x.isNaN = false) :
    Canonical x.toModel.unpack ∨ ∃ s, x.toModel.unpack = .infinity s :=
  (isFinite_or_infinity hx).imp_left canonical_of_isFinite

theorem lt_iff_toEReal (hx : x.isNaN = false) (hy : y.isNaN = false) :
    x < y ↔ toEReal x < toEReal y := by
  show decide (x.toModel.unpack.lt y.toModel.unpack = true) = true ↔ _
  rw [decide_eq_true_iff]
  exact lt_iff_erealValue (canonical_or_infinity hx) (canonical_or_infinity hy)

theorem RoundsTo.toEReal_of_overflow {q : ℚ} (h : RoundsTo x q) (hge : 2 ^ 1024 ≤ |round64 q|) :
    toEReal x = if q < 0 then ⊥ else ⊤ := by
  rw [toEReal, h.overflow hge, signOfRat]
  split_ifs <;> rfl

theorem RoundsTo.toEReal_le {q : ℚ} {k : ℤ} (h : RoundsTo x q) (hk : |k| < 2 ^ 53)
    (hq : q ≤ k) : toEReal x ≤ ((k : ℝ) : EReal) := by
  have hk0 : round64 (k : ℚ) = k := by
    simpa using round64_exact hk (show (-1074 : Int) ≤ 0 by norm_num)
  have hround : round64 q ≤ k := (round64_mono hq).trans hk0.le
  by_cases hlt : |round64 q| < 2 ^ 1024
  · obtain ⟨hf, hv⟩ := h.finite hlt
    rw [toEReal_of_isFinite hf, hv, EReal.coe_le_coe_iff]
    exact_mod_cast hround
  · rw [h.toEReal_of_overflow (not_lt.1 hlt)]
    split_ifs with hneg
    · exact bot_le
    · -- a nonnegative value below `k` cannot overflow
      exfalso
      have hk' : (k : ℚ) < 2 ^ 53 := lt_of_le_of_lt (le_abs_self _) (by exact_mod_cast hk)
      rw [abs_of_nonneg (round64_nonneg (not_lt.1 hneg)), not_lt] at hlt
      have h53 : (2 : ℚ) ^ 53 < 2 ^ 1024 := pow_lt_pow_right₀ (by norm_num) (by norm_num)
      exact absurd (hlt.trans (hround.trans hk'.le)) (not_le.2 h53)

theorem RoundsTo.le_toEReal {q : ℚ} {k : ℤ} (h : RoundsTo x q) (hk : |k| < 2 ^ 53)
    (hq : k ≤ q) : ((k : ℝ) : EReal) ≤ toEReal x := by
  have hk0 : round64 (k : ℚ) = k := by
    simpa using round64_exact hk (show (-1074 : Int) ≤ 0 by norm_num)
  have hround : (k : ℚ) ≤ round64 q := hk0.symm.le.trans (round64_mono hq)
  by_cases hlt : |round64 q| < 2 ^ 1024
  · obtain ⟨hf, hv⟩ := h.finite hlt
    rw [toEReal_of_isFinite hf, hv, EReal.coe_le_coe_iff]
    exact_mod_cast hround
  · rw [h.toEReal_of_overflow (not_lt.1 hlt)]
    split_ifs with hneg
    · -- a negative value above `k` cannot overflow
      exfalso
      have hk' : -(2 : ℚ) ^ 53 < k := by
        have := neg_abs_le (k : ℚ)
        have : |(k : ℚ)| < 2 ^ 53 := by exact_mod_cast hk
        linarith
      have hr : round64 q ≤ 0 := by simpa [round64_zero] using round64_mono hneg.le
      rw [abs_of_nonpos hr, not_lt] at hlt
      have h53 : (2 : ℚ) ^ 53 < 2 ^ 1024 := pow_lt_pow_right₀ (by norm_num) (by norm_num)
      have : (2 : ℚ) ^ 1024 < 2 ^ 53 :=
        calc (2 : ℚ) ^ 1024 ≤ -round64 q := hlt
          _ ≤ -k := neg_le_neg hround
          _ < 2 ^ 53 := neg_lt.1 hk'
      exact absurd this (not_lt.2 h53.le)
    · exact le_top

theorem RoundsTo.toEReal_eq {k : ℤ} (h : RoundsTo x k) (hk : |k| < 2 ^ 53) :
    toEReal x = ((k : ℝ) : EReal) :=
  le_antisymm (h.toEReal_le hk le_rfl) (h.le_toEReal hk le_rfl)

theorem sub_infinity {s : Sign} (hx : x.isFinite = true) (hy : y.toModel.unpack = .infinity s) :
    (x - y).toModel.unpack = .infinity (-s) := by
  have cx := canonical_of_isFinite hx
  show unpack .binary64 (pack .binary64 (sub .binary64 x.toModel.unpack y.toModel.unpack)) = _
  rw [hy]
  generalize x.toModel.unpack = u at cx
  cases u with
  | finite s' m e hm => exact unpack_pack_infinity _
  | zero s' => exact unpack_pack_infinity _
  | infinity _ => exact absurd cx id
  | notANumber => exact absurd cx id

theorem infinity_add {s : Sign} (hx : x.toModel.unpack = .infinity s) (hy : y.isFinite = true) :
    (x + y).toModel.unpack = .infinity s := by
  have cy := canonical_of_isFinite hy
  show unpack .binary64 (pack .binary64 (add .binary64 x.toModel.unpack y.toModel.unpack)) = _
  rw [hx]
  generalize y.toModel.unpack = v at cy
  cases v with
  | finite s' m e hm => exact unpack_pack_infinity _
  | zero s' => exact unpack_pack_infinity _
  | infinity _ => exact absurd cy id
  | notANumber => exact absurd cy id

theorem toEReal_add_zero (hx : x.isNaN = false) (hy : y.isFinite = true) (hy0 : toRat y = 0) :
    (x + y).isNaN = false ∧ toEReal (x + y) = toEReal x := by
  rcases isFinite_or_infinity hx with hf | ⟨s, hs⟩
  · have hval : round64 (toRat x + toRat y) = toRat x := by rw [hy0, add_zero, round64_toRat hf]
    have hlt : |round64 (toRat x + toRat y)| < 2 ^ 1024 := by
      rw [hval]
      exact (abs_toRat_le hf).trans_lt maxFinite_lt
    obtain ⟨hf', hv⟩ := (add_roundsTo hf hy).finite hlt
    refine ⟨isNaN_of_isFinite hf', ?_⟩
    rw [toEReal_of_isFinite hf', toEReal_of_isFinite hf, hv, hval]
  · have h := infinity_add hs hy
    exact ⟨isNaN_of_infinity h, by rw [toEReal, toEReal, h, hs]⟩

theorem eq_zero_of_beq (h : (x == 0.0) = true) : x.isFinite = true ∧ toRat x = 0 := by
  change x.toModel.unpack.beq (0.0 : Float).toModel.unpack = true at h
  rw [unpack_zero_lit] at h
  cases hu : x.toModel.unpack with
  | zero s => exact isFinite_toRat_of_unpack hu trivial
  | finite s m e hm => rw [hu] at h; cases s <;> exact nomatch h
  | infinity s => rw [hu] at h; cases s <;> exact nomatch h
  | notANumber => rw [hu] at h; exact nomatch h

theorem truncInt_eq (hx : x.isFinite = true) (h0 : 0 ≤ toRat x) :
    Float.truncInt x = .ok ⌊toRat x⌋ := by
  obtain ⟨neg, m, e, hb, -, -, -, hval⟩ := ofFloat_finite hx
  unfold Float.truncInt
  rw [hb, hval]
  simp only [Nat.pow_eq]
  cases neg with
  | true =>
    -- a negative sign on a value that is not negative leaves only a zero mantissa
    rw [hval] at h0
    have hm : m = 0 := by
      by_contra hm
      have : (0 : ℚ) < m * 2 ^ e := by positivity
      simp only [signOfNeg, sgn, if_true] at h0
      linarith
    subst hm
    simp
  | false =>
    simp only [signOfNeg, sgn, one_mul, Bool.false_eq_true, if_false, Except.ok.injEq]
    rcases le_or_gt 0 e with he | he
    · have hexact : (m : ℚ) * 2 ^ e = ((m * 2 ^ e.toNat : ℕ) : ℤ) := by
        push_cast
        rw [← zpow_natCast, Int.toNat_of_nonneg he]
      rw [if_pos he, hexact, Int.floor_intCast]
    · have hdiv : (m : ℚ) * 2 ^ e = m / ((2 ^ (-e).toNat : ℕ) : ℚ) := by
        push_cast
        rw [div_eq_mul_inv, ← zpow_natCast, ← zpow_neg, Int.toNat_of_nonneg (by omega), neg_neg]
      rw [if_neg (not_le.2 he), hdiv, Rat.floor_natCast_div_natCast]
      rfl

end Extended

end SpinLidar.Rounding
