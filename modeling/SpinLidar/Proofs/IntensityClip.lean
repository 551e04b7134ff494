import SpinLidar.Proofs.FloatDivision
import SpinLidar.Proofs.AzimuthSweep
import SpinLidar.Proofs.NominalTables
namespace SpinLidar

open Float.Model UnpackedFloat Rounding Packet

namespace Rounding

theorem RoundsTo.toRat_eq {x : Float} {q : ℚ} (h : RoundsTo x q) (hx : x.isFinite = true) :
    toRat x = round64 q := by
  by_cases hlt : |round64 q| < 2 ^ 1024
  · exact (h.finite hlt).2
  · have hinf := h.overflow (not_lt.1 hlt)
    change x.toModel.unpack.isFinite = true at hx
    rw [hinf] at hx
    simp [UnpackedFloat.isFinite] at hx

theorem RoundsTo.mem {x : Float} {q : ℚ} {n : ℕ} (h : RoundsTo x q) (hn : n < 2 ^ 53)
    (h0 : 0 ≤ q) (h1 : q ≤ n) : x.isFinite = true ∧ 0 ≤ toRat x ∧ toRat x ≤ n := by
  obtain ⟨r0, r1⟩ := round64_mem hn h0 h1
  have hlt : |round64 q| < 2 ^ 1024 := by
    rw [abs_of_nonneg r0]
    calc round64 q ≤ n := r1
      _ < 2 ^ 53 := by exact_mod_cast hn
      _ < 2 ^ 1024 := pow_lt_pow_right₀ (by norm_num) (by norm_num)
  obtain ⟨hf, hv⟩ := h.finite hlt
  exact ⟨hf, hv ▸ r0, hv ▸ r1⟩

theorem isFinite_abs {x : Float} (hx : x.isFinite = true) : x.abs.isFinite = true := by
  have hc : Canonical x.toModel.unpack.abs := by
    have cx := canonical_of_isFinite hx
    generalize x.toModel.unpack = u at cx
    cases u with
    | finite s m e hm => exact cx
    | zero s => trivial
    | infinity _ => exact absurd cx id
    | notANumber => exact absurd cx id
  exact (ofModel_pack hc).1

theorem isFinite_of_mul_self {x : Float} (h : (x * x).isFinite = true) : x.isFinite = true := by
  change (unpack .binary64 (pack .binary64
    (mul .binary64 x.toModel.unpack x.toModel.unpack))).isFinite = true at h
  show x.toModel.unpack.isFinite = true
  cases hu : x.toModel.unpack with
  | finite s m e hm => rfl
  | zero s => rfl
  | infinity s => rw [hu] at h; cases s <;> exact absurd h (by decide)
  | notANumber => rw [hu] at h; exact absurd h (by decide)

theorem isFinite_of_toEReal {x : Float} {lo hi : ℤ} (hx : x.isNaN = false)
    (h0 : ((lo : ℝ) : EReal) ≤ toEReal x) (h1 : toEReal x ≤ ((hi : ℝ) : EReal)) :
    x.isFinite = true ∧ (lo : ℚ) ≤ toRat x ∧ toRat x ≤ hi := by
  rcases isFinite_or_infinity hx with hf | ⟨s, hs⟩
  · rw [toEReal_of_isFinite hf, EReal.coe_le_coe_iff] at h0 h1
    exact ⟨hf, by exact_mod_cast h0, by exact_mod_cast h1⟩
  · rw [toEReal, hs] at h0 h1
    cases s with
    | positive => simp [erealValue] at h1
    | negative => simp [erealValue] at h0

end Rounding

namespace Geometry

section Clip

variable {a b : Float}

theorem isNaN_nan : (0.0 / 0.0 : Float).isNaN = true := by decide

theorem maxNaN_isNaN (ha : a.isNaN = true) : (maxNaN a b).isNaN = true := by
  rw [maxNaN, ha, Bool.true_or, if_pos rfl]
  exact isNaN_nan

theorem minNaN_isNaN (ha : a.isNaN = true) : (minNaN a b).isNaN = true := by
  rw [minNaN, ha, Bool.true_or, if_pos rfl]
  exact isNaN_nan

theorem toEReal_maxNaN (ha : a.isNaN = false) (hb : b.isNaN = false) :
    (maxNaN a b).isNaN = false ∧ toEReal (maxNaN a b) = max (toEReal a) (toEReal b) := by
  rw [maxNaN, ha, hb, Bool.or_false, if_neg Bool.false_ne_true]
  split_ifs with h
  · exact ⟨hb, (max_eq_right ((lt_iff_toEReal ha hb).1 h).le).symm⟩
  · exact ⟨ha, (max_eq_left (not_lt.1 ((lt_iff_toEReal ha hb).not.1 h))).symm⟩

theorem toEReal_minNaN (ha : a.isNaN = false) (hb : b.isNaN = false) :
    (minNaN a b).isNaN = false ∧ toEReal (minNaN a b) = min (toEReal a) (toEReal b) := by
  rw [minNaN, ha, hb, Bool.or_false, if_neg Bool.false_ne_true]
  split_ifs with h
  · exact ⟨hb, (min_eq_right ((lt_iff_toEReal hb ha).1 h).le).symm⟩
  · exact ⟨ha, (min_eq_left (not_lt.1 ((lt_iff_toEReal hb ha).not.1 h))).symm⟩

theorem toEReal_clip {w C : Float} (hw : w.isNaN = false) (hC : C.isNaN = false) :
    (minNaN (maxNaN w 0.0) C).isNaN = false ∧
      toEReal (minNaN (maxNaN w 0.0) C) = min (max (toEReal w) 0) (toEReal C) := by
  obtain ⟨h1, e1⟩ := toEReal_maxNaN hw (isNaN_of_isFinite zero_lit.1)
  obtain ⟨h2, e2⟩ := toEReal_minNaN h1 hC
  rw [e2, e1, toEReal_of_isFinite zero_lit.1, zero_lit.2]
  exact ⟨h2, by simp⟩

theorem ofFloat_of_isNaN {x : Float} (hx : x.isNaN = true) : Binary.ofFloat x = .nan := by
  have hu : x.toModel.unpack = .notANumber := by
    change x.toModel.unpack.isNaN = true at hx
    cases h : x.toModel.unpack with
    | notANumber => rfl
    | _ => rw [h] at hx; simp [UnpackedFloat.isNaN] at hx
  rw [ofFloat_eq, hu]
  rfl

theorem store_eq_floor (cast : ByteCast) {x : Float} (hx : x.isFinite = true) (h0 : 0 ≤ toRat x)
    (h1 : toRat x < 256) : (cast.store x : ℤ) = ⌊toRat x⌋ := by
  have hf0 : 0 ≤ ⌊toRat x⌋ := Int.floor_nonneg.2 h0
  have hf1 : ⌊toRat x⌋ < 256 := Int.floor_lt.2 (by exact_mod_cast h1)
  rw [cast.store_trunc x _ (truncInt_eq hx h0) hf0 hf1, Int.toNat_of_nonneg hf0]

end Clip

/-- A value on the extended line stands for the integer `n` as far as a clip to `[0, c]` with
`c ≤ 255` can tell: at most zero when `n` is, `n` itself in between, at least `255` above. -/
structure ClipsLike (z : EReal) (n : ℤ) : Prop where
  le_zero : n ≤ 0 → z ≤ 0
  eq_self : 0 ≤ n → n ≤ 255 → z = ((n : ℝ) : EReal)
  ge_top : 255 ≤ n → ((255 : ℝ) : EReal) ≤ z

theorem ClipsLike.clamp {z : EReal} {n c : ℤ} (h : ClipsLike z n) (hc0 : 0 ≤ c) (hc : c ≤ 255) :
    min (max z 0) ((c : ℝ) : EReal) = ((min (max n 0) c : ℤ) : ℝ) := by
  have hc0' : (0 : EReal) ≤ ((c : ℝ) : EReal) := EReal.coe_nonneg.2 (by exact_mod_cast hc0)
  rcases le_or_gt n 0 with hn | hn
  · -- at or below zero both sides clip to zero
    rw [max_eq_right (h.le_zero hn), min_eq_left hc0', max_eq_right hn, min_eq_left hc0]
    simp
  · rcases le_or_gt n 255 with hn' | hn'
    · rw [h.eq_self hn.le hn', max_eq_left (EReal.coe_nonneg.2 (by exact_mod_cast hn.le)),
        max_eq_left hn.le, Int.cast_min]
      exact (EReal.coe_strictMono.monotone.map_min).symm
    · -- above `255` both sides clip to the ceiling
      have hz : ((c : ℝ) : EReal) ≤ z :=
        (EReal.coe_le_coe_iff.2 (by exact_mod_cast hc)).trans (h.ge_top hn'.le)
      rw [max_eq_left (hc0'.trans hz), min_eq_right hz, max_eq_left hn.le, min_eq_right (by omega)]

def focalOffset (e : Entry) : Float := 1.0 - e.focalDistance / focalDistanceScale

def rawOffset (rawDistance : Float) : Float := 1.0 - rawDistance / maxRawDistance

def focalTerm (e : Entry) (rawDistance : Float) : Float :=
  focalSlopeScale * e.focalSlope *
    Float.abs (focalOffset e * focalOffset e - rawOffset rawDistance * rawOffset rawDistance)

def ceiling (e : Entry) : Float := minNaN (Float.ofInt e.maxIntensity) 255.0

theorem clippedIntensity_eq (e : Entry) (r : ℕ) (d : Float) :
    clippedIntensity e r d = minNaN (maxNaN (maxNaN (Float.ofNat r - Float.ofInt e.minIntensity)
      0.0 + focalTerm e d) 0.0) (ceiling e) := rfl

theorem unit_lit : (1.0 : Float).isFinite = true ∧ toRat 1.0 = 1 :=
  (literal_eq (show (1.0 : Float).toModel.unpack =
    .finite .positive (2 ^ 52) (-52) (by norm_num) from rfl) (by decide)).imp id
    fun h => by rw [h]; norm_num

theorem rawScale_lit : maxRawDistance.isFinite = true ∧ toRat maxRawDistance = 65535 :=
  (literal_eq (show maxRawDistance.toModel.unpack =
    .finite .positive (65535 * 2 ^ 37) (-37) (by norm_num) from rfl) (by decide)).imp id
    fun h => by rw [h]; norm_num

theorem slopeScale_lit : focalSlopeScale.isFinite = true ∧ toRat focalSlopeScale = 256 :=
  (literal_eq (show focalSlopeScale.toModel.unpack =
    .finite .positive (2 ^ 52) (-44) (by norm_num) from rfl) (by decide)).imp id
    fun h => by rw [h]; norm_num

theorem byteTop_lit : (255.0 : Float).isFinite = true ∧ toRat 255.0 = 255 :=
  (literal_eq (show (255.0 : Float).toModel.unpack =
    .finite .positive (255 * 2 ^ 45) (-45) (by norm_num) from rfl) (by decide)).imp id
    fun h => by rw [h]; norm_num

theorem ceiling_toEReal (e : Entry) (hmax : 0 ≤ e.maxIntensity) :
    (ceiling e).isNaN = false ∧ toEReal (ceiling e) = ((min e.maxIntensity 255 : ℤ) : ℝ) := by
  have hM := ofInt_roundsTo e.maxIntensity
  have h255 : toEReal 255.0 = (((255 : ℤ) : ℝ) : EReal) := by
    rw [toEReal_of_isFinite byteTop_lit.1, byteTop_lit.2]
    norm_num
  obtain ⟨hn, he⟩ := toEReal_minNaN hM.isNaN (isNaN_of_isFinite byteTop_lit.1)
  refine ⟨hn, ?_⟩
  rw [ceiling, he, h255]
  rcases le_or_gt e.maxIntensity 255 with h | h
  · have hsmall : |e.maxIntensity| < 2 ^ 53 := by rw [abs_lt]; constructor <;> omega
    rw [hM.toEReal_eq hsmall, min_eq_left (EReal.coe_le_coe_iff.2 (by exact_mod_cast h)),
      min_eq_left h]
  · have hbig : (((255 : ℤ) : ℝ) : EReal) ≤ toEReal (Float.ofInt e.maxIntensity) :=
      hM.le_toEReal (by norm_num) (by exact_mod_cast h.le)
    rw [min_eq_right hbig, min_eq_right h.le]

theorem intCast_le_round64 {k m : ℤ} (hk : |k| < 2 ^ 53) (h : k ≤ m) : (k : ℚ) ≤ round64 m := by
  have := round64_mono (show (k : ℚ) ≤ m by exact_mod_cast h)
  rwa [round64_intCast hk] at this

theorem round64_le_intCast {k m : ℤ} (hk : |k| < 2 ^ 53) (h : m ≤ k) : round64 (m : ℚ) ≤ k := by
  have := round64_mono (show (m : ℚ) ≤ k by exact_mod_cast h)
  rwa [round64_intCast hk] at this

theorem clipsLike_sub_finite (r : ℕ) (hr : r ≤ 255) {m : ℤ} (hlt : |round64 (m : ℚ)| < 2 ^ 1024) :
    (Float.ofNat r - Float.ofInt m).isNaN = false ∧
      ClipsLike (toEReal (Float.ofNat r - Float.ofInt m)) (r - m) := by
  obtain ⟨hrf, hrv⟩ := ofNat_eq (show r < 2 ^ 53 by omega)
  obtain ⟨hmf, hmv⟩ := (ofInt_roundsTo m).finite hlt
  have hsub := sub_roundsTo hrf hmf
  rw [hrv, hmv] at hsub
  refine ⟨hsub.isNaN, fun hn => ?_, fun hn0 hn1 => ?_, fun hn => ?_⟩
  · -- a minimum at least the reflectivity rounds to at least it
    have hge : (r : ℚ) ≤ round64 m := by
      simpa using intCast_le_round64 (show |(r : ℤ)| < 2 ^ 53 by rw [abs_lt]; omega)
        (show (r : ℤ) ≤ m by omega)
    have : toEReal (Float.ofNat r - Float.ofInt m) ≤ (((0 : ℤ) : ℝ) : EReal) :=
      hsub.toEReal_le (by norm_num) (by push_cast; linarith)
    simpa using this
  · -- a difference in `[0, 255]` is exact
    have hm : round64 (m : ℚ) = m := round64_intCast (by rw [abs_lt]; constructor <;> omega)
    rw [hm, show (r : ℚ) - m = ((r - m : ℤ) : ℚ) by push_cast; ring] at hsub
    exact hsub.toEReal_eq (by rw [abs_lt]; constructor <;> omega)
  · -- a minimum at most the reflectivity less `255` rounds to at most that
    have hle : round64 (m : ℚ) ≤ (r : ℚ) - 255 := by
      have := round64_le_intCast (show |(r : ℤ) - 255| < 2 ^ 53 by rw [abs_lt]; omega)
        (show m ≤ (r : ℤ) - 255 by omega)
      push_cast at this
      exact this
    have : (((255 : ℤ) : ℝ) : EReal) ≤ toEReal (Float.ofNat r - Float.ofInt m) :=
      hsub.le_toEReal (by norm_num) (by push_cast; linarith)
    simpa using this

theorem clipsLike_sub_overflow (r : ℕ) (hr : r ≤ 255) {m : ℤ}
    (hge : 2 ^ 1024 ≤ |round64 (m : ℚ)|) :
    (Float.ofNat r - Float.ofInt m).isNaN = false ∧
      ClipsLike (toEReal (Float.ofNat r - Float.ofInt m)) (r - m) := by
  obtain ⟨hrf, -⟩ := ofNat_eq (show r < 2 ^ 53 by omega)
  have hsub := sub_infinity hrf ((ofInt_roundsTo m).overflow hge)
  -- only a minimum of more than 53 bits converts past the range
  have hbig : 2 ^ 53 ≤ |m| := by
    by_contra hsmall
    rw [round64_intCast (not_le.1 hsmall)] at hge
    have : |(m : ℚ)| < 2 ^ 53 := by exact_mod_cast not_le.1 hsmall
    exact absurd hge (not_le.2 (this.trans (pow_lt_pow_right₀ (by norm_num) (by norm_num))))
  have hval : toEReal (Float.ofNat r - Float.ofInt m) = if (m : ℚ) < 0 then ⊤ else ⊥ := by
    rw [toEReal, hsub, signOfRat]
    split_ifs <;> rfl
  have hbig' : m ≤ -2 ^ 53 ∨ 2 ^ 53 ≤ m := le_abs'.1 hbig
  refine ⟨isNaN_of_infinity hsub, fun hn => ?_, fun hn0 hn1 => ?_, fun hn => ?_⟩
  · -- a minimum past the range is a large positive one: the difference is `-∞`
    rw [hval, if_neg (show ¬(m : ℚ) < 0 by exact_mod_cast (show ¬m < 0 by omega))]
    exact bot_le
  · omega
  · -- a minimum past the range is a large negative one: the difference is `+∞`
    rw [hval, if_pos (show (m : ℚ) < 0 by exact_mod_cast (show m < 0 by omega))]
    exact le_top

/-- The reflectivity less the minimum stands for their integer difference as far as the clip
can tell: an exact difference in `[0, 255]`, and past it a rounding or an infinity on the same
side. -/
theorem clipsLike_sub (r : ℕ) (hr : r ≤ 255) (m : ℤ) :
    (Float.ofNat r - Float.ofInt m).isNaN = false ∧
      ClipsLike (toEReal (Float.ofNat r - Float.ofInt m)) (r - m) := by
  by_cases hlt : |round64 (m : ℚ)| < 2 ^ 1024
  · exact clipsLike_sub_finite r hr hlt
  · exact clipsLike_sub_overflow r hr (not_lt.1 hlt)

theorem rawOffset_sq_mem {raw : ℕ} (hraw : raw ≤ 65535) :
    (rawOffset (Float.ofNat raw) * rawOffset (Float.ofNat raw)).isFinite = true ∧
      0 ≤ toRat (rawOffset (Float.ofNat raw) * rawOffset (Float.ofNat raw)) ∧
      toRat (rawOffset (Float.ofNat raw) * rawOffset (Float.ofNat raw)) ≤ 1 := by
  obtain ⟨hd, hdv⟩ := ofNat_eq (show raw < 2 ^ 53 by omega)
  obtain ⟨hs, hsv⟩ := rawScale_lit
  have hq := (div_roundsTo hd hs (by rw [hsv]; norm_num)).mem (show 1 < 2 ^ 53 by norm_num)
    (by rw [hdv, hsv]; positivity)
    (by rw [hdv, hsv, Nat.cast_one, div_le_one (by norm_num)]; exact_mod_cast hraw)
  have ht := (sub_roundsTo unit_lit.1 hq.1).mem (show 1 < 2 ^ 53 by norm_num)
    (by rw [unit_lit.2]; linarith [hq.2.2]) (by rw [unit_lit.2]; push_cast; linarith [hq.2.1])
  push_cast at ht
  exact (mul_roundsTo ht.1 ht.1).mem (show 1 < 2 ^ 53 by norm_num) (mul_nonneg ht.2.1 ht.2.1)
    (by push_cast; exact mul_le_one₀ ht.2.2 ht.2.1 ht.2.2)

/-- With a zero slope and a finite focal factor the focal compensation is a zero: the
difference of the two squares stays finite, since the first is finite and not negative and the
second lies in `[0, 1]`. -/
theorem focalTerm_zero (e : Entry) (hslope : (e.focalSlope == 0.0) = true)
    (hfocal : (focalOffset e * focalOffset e).isFinite = true) {raw : ℕ} (hraw : raw ≤ 65535) :
    (focalTerm e (Float.ofNat raw)).isFinite = true ∧ toRat (focalTerm e (Float.ofNat raw)) = 0 := by
  obtain ⟨hsf, hs0⟩ := eq_zero_of_beq hslope
  obtain ⟨htf, ht0, ht1⟩ := rawOffset_sq_mem hraw
  have hof := isFinite_of_mul_self hfocal
  -- the focal square is a rounded square, so it is not negative
  have hsq0 : 0 ≤ toRat (focalOffset e * focalOffset e) := by
    rw [(mul_roundsTo hof hof).toRat_eq hfocal]
    exact round64_nonneg (mul_self_nonneg _)
  have hdiff := sub_roundsTo hfocal htf
  have hdlt : |round64 (toRat (focalOffset e * focalOffset e) -
      toRat (rawOffset (Float.ofNat raw) * rawOffset (Float.ofNat raw)))| < 2 ^ 1024 := by
    have hhi := (round64_mono (sub_le_self _ ht0)).trans_eq (round64_toRat hfocal)
    have hlo : -1 ≤ round64 (toRat (focalOffset e * focalOffset e) -
        toRat (rawOffset (Float.ofNat raw) * rawOffset (Float.ofNat raw))) := by
      have := round64_mono (show ((-1 : ℤ) : ℚ) ≤ toRat (focalOffset e * focalOffset e) -
        toRat (rawOffset (Float.ofNat raw) * rawOffset (Float.ofNat raw)) by push_cast; linarith)
      rwa [round64_intCast (by norm_num), Int.cast_neg, Int.cast_one] at this
    have hmax := (abs_toRat_le hfocal).trans_lt maxFinite_lt
    have h1024 : (1 : ℚ) < 2 ^ 1024 := one_lt_pow₀ (by norm_num) (by norm_num)
    rw [abs_lt] at hmax ⊢
    generalize (2 : ℚ) ^ 1024 = B at hmax h1024 ⊢
    constructor <;> linarith
  have habs := isFinite_abs (hdiff.finite hdlt).1
  have hscaled := (mul_roundsTo slopeScale_lit.1 hsf).mem (show 0 < 2 ^ 53 by norm_num)
    (by rw [hs0, mul_zero]) (by rw [hs0, mul_zero]; rfl)
  have h := (mul_roundsTo hscaled.1 habs).mem (show 0 < 2 ^ 53 by norm_num)
    (by rw [le_antisymm hscaled.2.2 hscaled.2.1]; simp) (by rw [le_antisymm hscaled.2.2 hscaled.2.1]; simp)
  exact ⟨h.1, le_antisymm (by exact_mod_cast h.2.2) h.2.1⟩

section Stored

variable (cast : ByteCast)

theorem intensity_le_ceiling (e : Entry) (hmax : 0 ≤ e.maxIntensity) (r : ℕ) (d : Float) :
    (cast.store (clippedIntensity e r d) : ℤ) ≤ min e.maxIntensity 255 := by
  obtain ⟨hC, hCv⟩ := ceiling_toEReal e hmax
  have hc0 : 0 ≤ min e.maxIntensity 255 := le_min hmax (by norm_num)
  rw [clippedIntensity_eq]
  generalize maxNaN (Float.ofNat r - Float.ofInt e.minIntensity) 0.0 + focalTerm e d = w
  cases hw : w.isNaN with
  | true =>
    -- a NaN stays a NaN through both clips and stores as zero
    rw [cast.store_nan _ (ofFloat_of_isNaN (minNaN_isNaN (maxNaN_isNaN hw)))]
    exact_mod_cast hc0
  | false =>
    obtain ⟨hf, hfv⟩ := toEReal_clip hw hC
    rw [hCv] at hfv
    have h0 : (((0 : ℤ) : ℝ) : EReal) ≤ toEReal (minNaN (maxNaN w 0.0) (ceiling e)) := by
      rw [hfv]
      exact le_min (by simp) (EReal.coe_le_coe_iff.2 (by exact_mod_cast hc0))
    obtain ⟨hfin, hlo, hhi⟩ := isFinite_of_toEReal hf h0 (hfv ▸ min_le_right _ _)
    push_cast at hlo
    have h255 : ((min e.maxIntensity 255 : ℤ) : ℚ) ≤ 255 := by exact_mod_cast min_le_right _ _
    rw [store_eq_floor cast hfin hlo (by linarith)]
    calc ⌊toRat (minNaN (maxNaN w 0.0) (ceiling e))⌋
        ≤ ⌊((min e.maxIntensity 255 : ℤ) : ℚ)⌋ := Int.floor_le_floor hhi
      _ = min e.maxIntensity 255 := Int.floor_intCast _

/-- With a zero focal slope and a finite focal factor, the intensity of a reflectivity byte at
a raw distance of 16 bits is the reflectivity less the minimum, clipped to `[0, min max 255]`. -/
theorem intensity_eq_clip (e : Entry) (hmax : 0 ≤ e.maxIntensity)
    (hslope : (e.focalSlope == 0.0) = true)
    (hfocal : (focalOffset e * focalOffset e).isFinite = true) {r raw : ℕ} (hr : r ≤ 255)
    (hraw : raw ≤ 65535) :
    (cast.store (clippedIntensity e r (Float.ofNat raw)) : ℤ) =
      min (max (r - e.minIntensity) 0) (min e.maxIntensity 255) := by
  obtain ⟨hC, hCv⟩ := ceiling_toEReal e hmax
  obtain ⟨ha, hclips⟩ := clipsLike_sub r hr e.minIntensity
  obtain ⟨hF, hF0⟩ := focalTerm_zero e hslope hfocal hraw
  obtain ⟨hm, hmv⟩ := toEReal_maxNaN ha (isNaN_of_isFinite zero_lit.1)
  obtain ⟨hw, hwv⟩ := toEReal_add_zero hm hF hF0
  obtain ⟨hf, hfv⟩ := toEReal_clip hw hC
  set k := min (max ((r : ℤ) - e.minIntensity) 0) (min e.maxIntensity 255)
  -- the clipped value is the whole number the formula gives
  have hval : toEReal (minNaN (maxNaN (maxNaN (Float.ofNat r - Float.ofInt e.minIntensity) 0.0 +
      focalTerm e (Float.ofNat raw)) 0.0) (ceiling e)) = ((k : ℝ) : EReal) := by
    rw [hfv, hwv, hmv, hCv, toEReal_of_isFinite zero_lit.1, zero_lit.2, Rat.cast_zero,
      EReal.coe_zero, max_assoc, max_self]
    exact hclips.clamp (le_min hmax (by norm_num)) (min_le_right _ _)
  obtain ⟨hfin, hlo, hhi⟩ := isFinite_of_toEReal hf hval.ge hval.le
  have hexact := le_antisymm hhi hlo
  have hk0 : 0 ≤ k := le_min (le_max_right _ _) (le_min hmax (by norm_num))
  have hk1 : k ≤ 255 := (min_le_right _ _).trans (min_le_right _ _)
  rw [clippedIntensity_eq, store_eq_floor cast hfin (by rw [hexact]; exact_mod_cast hk0)
    (by rw [hexact]; exact_mod_cast Int.lt_add_one_of_le hk1), hexact, Int.floor_intCast]

/-- What the clip promises of an intensity `i` computed with entry `e` from reflectivity `r`:
with a maximum that is not negative it lies in `[0, min max 255]`, and with a zero focal slope
and a finite focal factor it is the reflectivity less the minimum, clipped there. -/
structure ClippedIntensity (e : Entry) (r i : ℕ) : Prop where
  le_ceiling : 0 ≤ e.maxIntensity → (i : ℤ) ≤ min e.maxIntensity 255
  eq_clip : 0 ≤ e.maxIntensity → (e.focalSlope == 0.0) = true →
    (focalOffset e * focalOffset e).isFinite = true →
    (i : ℤ) = min (max (r - e.minIntensity) 0) (min e.maxIntensity 255)

theorem intensity_clipped (e : Entry) {r raw : ℕ} (hr : r ≤ 255) (hraw : raw ≤ 65535) :
    ClippedIntensity e r (cast.store (clippedIntensity e r (Float.ofNat raw))) :=
  ⟨fun hmax => intensity_le_ceiling cast e hmax r _,
    fun hmax hslope hfocal => intensity_eq_clip cast e hmax hslope hfocal hr hraw⟩

theorem intensity_plain {e : Entry} (he : e.PlainIntensity) {r raw : ℕ} (hr : r ≤ 255)
    (hraw : raw ≤ 65535) : cast.store (clippedIntensity e r (Float.ofNat raw)) = r := by
  have hslope : (e.focalSlope == 0.0) = true := by
    rw [he.slope_zero]
    decide +kernel
  have hfocal : (focalOffset e * focalOffset e).isFinite = true := by
    rw [focalOffset, he.focal_zero]
    decide +kernel
  have h := intensity_eq_clip cast e (by rw [he.max_full]; decide) hslope hfocal hr hraw
  rw [he.min_zero, he.max_full] at h
  omega

end Stored

end Geometry

namespace Synthesis

theorem sampleAt_bounds {model : Sensor.Model} {buf : ByteArray} {p : Packet}
    (hp : parse model.spec buf = .ok p) {b s : ℕ} (hb : b < 12) (hs : s < 32) :
    (sampleAt model.spec p b s).reflectivity ≤ 255 ∧ (sampleAt model.spec p b s).raw ≤ 65535 := by
  obtain ⟨-, -, mode, -, rfl⟩ := parse_eq_ok.1 hp
  have h₀ := byteAt_lt buf (100 * b + 6 + 3 * s)
  have h₁ := byteAt_lt buf (100 * b + 4 + 3 * s)
  have h₂ := byteAt_lt buf (100 * b + 4 + 3 * s + 1)
  simp only [sampleAt, readBlocks_getD hb, read_reflectivity hs, read_distance hs, reflectivityAt,
    distanceAt, le16]
  omega

theorem channelOf_mem_blockChannels (spec : Sensor.Spec) {blocks : Array Block} {b s : ℕ}
    (hb : b < blocks.size) (hs : s < 32) :
    (channelOf spec (blocks.getD b default) s : ℤ) ∈ blockChannels spec blocks := by
  have hget : blocks.getD b default = blocks[b] := dif_pos hb
  rw [blockChannels, List.mem_flatMap, hget]
  refine ⟨blocks[b], Array.getElem_mem_toList hb, ?_⟩
  rw [Firing.slotChannels, List.mem_map]
  refine ⟨s, List.mem_range.2 hs, ?_⟩
  simp only [channelOf, Sensor.bankChannelOffset]
  split_ifs <;> push_cast <;> ring

theorem decode_entry_mem {d : Decoder} {buf : ByteArray} {pts : List Point}
    (h : d.decode buf = .ok pts) : ∀ pt ∈ pts, d.calibration.entry pt.channel ∈ d.calibration.entries := by
  obtain ⟨p, hp, hpts⟩ := Decoder.decode_eq_ok.1 h
  have hcheck := (points_eq_ok.1 hpts).1
  rw [decode_eq_map_keptSamples hp h]
  intro pt hpt
  obtain ⟨x, hx, rfl⟩ := List.mem_map.1 hpt
  obtain ⟨hb, hs⟩ := keptSamples_bounds hx
  obtain ⟨-, -, mode, -, rfl⟩ := parse_eq_ok.1 hp
  have hsize : x.1 < (readBlocks buf).size := by
    rw [size_readBlocks]
    exact hb
  exact Calibration.entry_mem
    (Calibration.lt_of_checkChannels hcheck (channelOf_mem_blockChannels _ hsize hs))

/-- Every decoded row's intensity is the clip for its channel's entry of a reflectivity byte
and a 16-bit raw distance, stored in a byte as the decoder's platform does. -/
theorem decode_intensity_eq {d : Decoder} {buf : ByteArray} {pts : List Point}
    (h : d.decode buf = .ok pts) :
    ∀ pt ∈ pts, ∃ raw, pt.reflectivity ≤ 255 ∧ raw ≤ 65535 ∧ pt.intensity =
      d.byteCast.store (Geometry.clippedIntensity (d.calibration.entry pt.channel) pt.reflectivity
        (Float.ofNat raw)) := by
  obtain ⟨p, hp, -⟩ := Decoder.decode_eq_ok.1 h
  rw [decode_eq_map_keptSamples hp h]
  intro pt hpt
  obtain ⟨x, hx, rfl⟩ := List.mem_map.1 hpt
  obtain ⟨hb, hs⟩ := keptSamples_bounds hx
  obtain ⟨hr, hraw⟩ := sampleAt_bounds hp hb hs
  exact ⟨_, hr, hraw, rfl⟩

/-- Every decoded row's intensity keeps what the clip promises for its channel's entry, on
every platform, and a decoder with the nominal table of its model gives every row its
reflectivity. -/
theorem decode_intensity_clipped (d : Decoder) (model : Sensor.Model) :
    (∀ (buf : ByteArray) (pts : List Point), d.decode buf = .ok pts →
        ∀ pt ∈ pts, Geometry.ClippedIntensity (d.calibration.entry pt.channel) pt.reflectivity
          pt.intensity) ∧
    EndsIn (fun _ => True)
      (fun d : Decoder => ∀ buf pts, d.decode buf = .ok pts →
        ∀ pt ∈ pts, pt.intensity = pt.reflectivity)
      (Decoder.make model none) := by
  refine ⟨fun buf pts h pt hpt => ?_, ?_⟩
  · obtain ⟨raw, hr, hraw, hi⟩ := decode_intensity_eq h pt hpt
    rw [hi]
    exact Geometry.intensity_clipped d.byteCast _ hr hraw
  · refine (Decoder.make_none_ends model (Calibration.bundled_plain model)).mono (fun _ h => h) ?_
    rintro d ⟨-, hplain⟩ buf pts h pt hpt
    obtain ⟨raw, hr, hraw, hi⟩ := decode_intensity_eq h pt hpt
    rw [hi]
    exact Geometry.intensity_plain d.byteCast (hplain _ (decode_entry_mem h pt hpt)) hr hraw

theorem mixedBytes_intensity_clipped :
    (Decoder.flatDecoder .hdl64e).decode mixedBytes = .ok mixedRows ∧
      ∀ pt ∈ mixedRows, Geometry.ClippedIntensity
        ((Decoder.flatDecoder .hdl64e).calibration.entry pt.channel) pt.reflectivity pt.intensity :=
  ⟨decode_mixedBytes, (decode_intensity_clipped _ .hdl64e).1 mixedBytes _ decode_mixedBytes⟩

def dualPacket : Packet := ⟨readBlocks dualBytes, footerOf dualBytes .dual⟩

def firstRow (d : Decoder) : Point :=
  point d.spec d.calibration d.byteCast dualPacket (groupDeltas d.spec dualPacket)
    (sampleAt d.spec dualPacket 0 0)

theorem firstRow_mem (d : Decoder) (hd : d.model = .hdl64e) :
    ∃ pts, d.decode dualBytes = .ok pts ∧ firstRow d ∈ pts := by
  have hp : parse d.spec dualBytes = .ok dualPacket := by
    rw [Decoder.spec, hd]
    exact parse_dualBytes
  refine ⟨_, decode_hdl64e hd parse_dualBytes, ?_⟩
  rw [decode_eq_map_keptSamples hp (decode_hdl64e hd parse_dualBytes)]
  refine List.mem_map.2 ⟨(0, 0), (mem_keptSamples d.model .dual dualBytes 0 0).2
    ⟨by norm_num, by norm_num, ?_⟩, rfl⟩
  rw [hd]
  decide +kernel

def negativeCeiling : Calibration :=
  ⟨Array.replicate 64 { Entry.ofVertical 0.0 with maxIntensity := -1 },
    Calibration.defaultResolution, "", by simp, Calibration.defaultResolution_pos⟩

def farFocus : Calibration :=
  ⟨Array.replicate 64 { Entry.ofVertical 0.0 with focalDistance := Float.ofBits 0x6100000000000000 },
    Calibration.defaultResolution, "", by simp, Calibration.defaultResolution_pos⟩

/-- Without bounds on the limits the clip does not hold, for tables that the table check
accepts: a maximum of `-1` has no byte in `[0, -1]`, and x86 wraps it to `255`; a zero slope
with a finite focal distance whose focal factor overflows stores `0` for a reflectivity of `32`
under limits `0` and `255`. -/
theorem intensity_escapes_clip :
    (Calibration.make negativeCeiling.entries Calibration.defaultResolution "" =
        .ok negativeCeiling ∧
      ∃ pts, (⟨.hdl64e, negativeCeiling, rfl, .x86⟩ : Decoder).decode dualBytes = .ok pts ∧
        ∃ pt ∈ pts, (negativeCeiling.entry pt.channel).maxIntensity = -1 ∧ pt.intensity = 255) ∧
    (Calibration.make farFocus.entries Calibration.defaultResolution "" = .ok farFocus ∧
      ∃ pts, (⟨.hdl64e, farFocus, rfl, .x86⟩ : Decoder).decode dualBytes = .ok pts ∧
        ∃ pt ∈ pts, ((farFocus.entry pt.channel).focalSlope == 0.0) = true ∧
          (farFocus.entry pt.channel).focalDistance.isFinite = true ∧
          (farFocus.entry pt.channel).minIntensity = 0 ∧
          (farFocus.entry pt.channel).maxIntensity = 255 ∧ pt.reflectivity = 32 ∧
          pt.intensity = 0) := by
  obtain ⟨pts, hpts, hmem⟩ := firstRow_mem ⟨.hdl64e, negativeCeiling, rfl, .x86⟩ rfl
  obtain ⟨pts', hpts', hmem'⟩ := firstRow_mem ⟨.hdl64e, farFocus, rfl, .x86⟩ rfl
  exact ⟨⟨Calibration.make_eq_ok "" (by simp [negativeCeiling]) Calibration.defaultResolution_pos,
      pts, hpts, _, hmem, by decide +kernel⟩,
    ⟨Calibration.make_eq_ok "" (by simp [farFocus]) Calibration.defaultResolution_pos,
      pts', hpts', _, hmem', by decide +kernel⟩⟩

end Synthesis

end SpinLidar
