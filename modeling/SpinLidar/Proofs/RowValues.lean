import SpinLidar.Proofs.FloatRemainder
import SpinLidar.Proofs.FiringTimes
namespace SpinLidar

open Float.Model UnpackedFloat Rounding Packet

namespace Rounding

instance (u : UnpackedFloat) : Decidable (Canonical u) := by
  cases u <;> unfold Canonical <;> infer_instance

theorem literal_eq {x : Float} {m : Nat} {e : Int} {hm : 0 < m}
    (h : x.toModel.unpack = .finite .positive m e hm) (hc : Canonical (.finite .positive m e hm)) :
    x.isFinite = true ∧ toRat x = m * 2 ^ e := by
  refine (isFinite_toRat_of_unpack h hc).imp id fun hv => ?_
  rw [hv, value_finite]
  simp [Sign.apply]

def hundredth : ℚ := 5764607523034235 / 2 ^ 59

theorem hundredth_lit : (0.01 : Float).isFinite = true ∧ toRat 0.01 = hundredth :=
  (literal_eq (show (0.01 : Float).toModel.unpack =
    .finite .positive 5764607523034235 (-59) (by norm_num) from rfl) (by decide)).imp id
    fun h => by rw [h, hundredth]; norm_num

theorem turn_lit : (360.0 : Float).isFinite = true ∧ toRat 360.0 = 360 :=
  (literal_eq (show (360.0 : Float).toModel.unpack =
    .finite .positive (360 * 2 ^ 44) (-44) (by norm_num) from rfl) (by decide)).imp id
    fun h => by rw [h]; norm_num

theorem centiTurn_lit : (36000.0 : Float).isFinite = true ∧ toRat 36000.0 = 36000 :=
  (literal_eq (show (36000.0 : Float).toModel.unpack =
    .finite .positive (36000 * 2 ^ 37) (-37) (by norm_num) from rfl) (by decide)).imp id
    fun h => by rw [h]; norm_num

theorem fractionBound_lit : (0.96875 : Float).isFinite = true ∧ toRat 0.96875 = 31 / 32 :=
  (literal_eq (show (0.96875 : Float).toModel.unpack =
    .finite .positive (31 * 2 ^ 48) (-53) (by norm_num) from rfl) (by decide)).imp id
    fun h => by rw [h]; norm_num

theorem offsetBound_lit : (128.0 : Float).isFinite = true ∧ toRat 128.0 = 128 :=
  (literal_eq (show (128.0 : Float).toModel.unpack =
    .finite .positive (2 ^ 52) (-45) (by norm_num) from rfl) (by decide)).imp id
    fun h => by rw [h]; norm_num

theorem startBound_lit : (2048.0 : Float).isFinite = true ∧ toRat 2048.0 = 2048 :=
  (literal_eq (show (2048.0 : Float).toModel.unpack =
    .finite .positive (2 ^ 52) (-41) (by norm_num) from rfl) (by decide)).imp id
    fun h => by rw [h]; norm_num

theorem round64_intCast {n : Int} (hn : |n| < 2 ^ 53) : round64 n = n := by
  simpa using round64_exact hn (show (-1074 : Int) ≤ 0 by norm_num)

theorem round64_natCast {n : Nat} (hn : n < 2 ^ 53) : round64 n = n := by
  simpa using round64_intCast (show |(n : Int)| < 2 ^ 53 by simpa using hn)

theorem round64_mem {x : ℚ} {n : Nat} (hn : n < 2 ^ 53) (h0 : 0 ≤ x) (h1 : x ≤ n) :
    0 ≤ round64 x ∧ round64 x ≤ n :=
  ⟨round64_nonneg h0, (round64_mono h1).trans (round64_natCast hn).le⟩

theorem lt_overflow {x : ℚ} (h : x < 2 ^ 53) : x < 2 ^ 1023 :=
  h.trans (pow_lt_pow_right₀ (by norm_num) (by norm_num))

theorem abs_lt_of_mem {x : ℚ} {n : Nat} (hn : n < 2 ^ 53) (h0 : 0 ≤ x) (h1 : x ≤ n) :
    |x| < 2 ^ 1023 := by
  rw [abs_of_nonneg h0]
  exact lt_overflow (lt_of_le_of_lt h1 (by exact_mod_cast hn))

theorem toRat_le_of_chain {x : Nat → Float} {n : Nat} (hfin : ∀ s < n, (x s).isFinite = true)
    (hstep : ∀ s, s + 1 < n → x s ≤ x (s + 1)) {s s' : Nat} (h : s ≤ s') (hs' : s' < n) :
    toRat (x s) ≤ toRat (x s') := by
  induction s', h using Nat.le_induction with
  | base => exact le_rfl
  | succ k hk ih =>
    have hk' : x k ≤ x (k + 1) := hstep k hs'
    exact (ih (by omega)).trans ((le_iff (hfin k (by omega)) (hfin (k + 1) hs')).1 hk')

theorem toRat_mem {x b : Float} {q : ℚ} (hb : b.isFinite = true ∧ toRat b = q)
    (h : x.isFinite = true ∧ 0.0 ≤ x ∧ x ≤ b) : x.isFinite = true ∧ 0 ≤ toRat x ∧ toRat x ≤ q := by
  obtain ⟨hf, h0, h1⟩ := h
  rw [le_iff zero_lit.1 hf, zero_lit.2] at h0
  rw [le_iff hf hb.1, hb.2] at h1
  exact ⟨hf, h0, h1⟩

section Bounded

variable {x y : Float} {n : Nat}

theorem add_mem (hx : x.isFinite = true) (hy : y.isFinite = true) (hn : n < 2 ^ 53)
    (h0 : 0 ≤ toRat x + toRat y) (h1 : toRat x + toRat y ≤ n) :
    (x + y).isFinite = true ∧ toRat (x + y) = round64 (toRat x + toRat y) ∧
      0 ≤ toRat (x + y) ∧ toRat (x + y) ≤ n := by
  obtain ⟨hf, hv⟩ := add_eq hx hy (abs_lt_of_mem hn h0 h1)
  rw [hv]
  exact ⟨hf, rfl, round64_mem hn h0 h1⟩

theorem mul_mem (hx : x.isFinite = true) (hy : y.isFinite = true) (hn : n < 2 ^ 53)
    (h0 : 0 ≤ toRat x * toRat y) (h1 : toRat x * toRat y ≤ n) :
    (x * y).isFinite = true ∧ toRat (x * y) = round64 (toRat x * toRat y) ∧
      0 ≤ toRat (x * y) ∧ toRat (x * y) ≤ n := by
  obtain ⟨hf, hv⟩ := mul_eq hx hy (abs_lt_of_mem hn h0 h1)
  rw [hv]
  exact ⟨hf, rfl, round64_mem hn h0 h1⟩

end Bounded

end Rounding

namespace Firing

def groupStart (spec : Sensor.Spec) (g : Nat) : Float := Float.ofNat g * spec.blockDuration

/-- What the rows need of a model's firing table, stated on floats so that it can be checked by
evaluation: slot fractions lie in `[0, 31/32]`, start at zero and never decrease; slot offsets
lie in `[0, 128]` and never decrease; group starts lie in `[0, 2048]`; the last slot of a group
fires no later than the first slot of the next; and the delay between returns is zero. -/
structure TableOrder (spec : Sensor.Spec) : Prop where
  fraction_bounds : ∀ s < 32, (slotFraction spec s).isFinite = true ∧ 0.0 ≤ slotFraction spec s ∧
    slotFraction spec s ≤ 0.96875
  fraction_first : slotFraction spec 0 ≤ 0.0
  fraction_mono : ∀ s < 31, slotFraction spec s ≤ slotFraction spec (s + 1)
  offset_bounds : ∀ s < 32, (slotOffset spec s).isFinite = true ∧ 0.0 ≤ slotOffset spec s ∧
    slotOffset spec s ≤ 128.0
  offset_mono : ∀ s < 31, slotOffset spec s ≤ slotOffset spec (s + 1)
  start_bounds : ∀ g < 12, (groupStart spec g).isFinite = true ∧ 0.0 ≤ groupStart spec g ∧
    groupStart spec g ≤ 2048.0
  group_gap : ∀ g < 11,
    groupStart spec g + slotOffset spec 31 ≤ groupStart spec (g + 1) + slotOffset spec 0
  delay_zero : spec.interReturnDelay.isFinite = true ∧ spec.interReturnDelay ≤ 0.0 ∧
    0.0 ≤ spec.interReturnDelay

theorem tableOrder_vlp16 : TableOrder (Sensor.Model.spec .vlp16) :=
  ⟨by decide +kernel, by decide +kernel, by decide +kernel, by decide +kernel, by decide +kernel,
    by decide +kernel, by decide +kernel, by decide +kernel⟩

theorem tableOrder (model : Sensor.Model) : TableOrder model.spec := by
  cases model with
  | vlp16 => exact tableOrder_vlp16
  | vlp16HiRes =>
    -- the high-resolution model fires on the same timing
    obtain ⟨h1, h2, h3, h4, h5, h6, h7, h8⟩ := tableOrder_vlp16
    exact ⟨h1, h2, h3, h4, h5, h6, h7, h8⟩
  | hdl32e | hdl64e =>
    exact ⟨by decide +kernel, by decide +kernel, by decide +kernel, by decide +kernel,
      by decide +kernel, by decide +kernel, by decide +kernel, by decide +kernel⟩

section TableOrder

variable {spec : Sensor.Spec} (ht : TableOrder spec)
include ht

theorem TableOrder.fraction_mem {s : Nat} (hs : s < 32) :
    (slotFraction spec s).isFinite = true ∧ 0 ≤ toRat (slotFraction spec s) ∧
      toRat (slotFraction spec s) ≤ 31 / 32 :=
  toRat_mem fractionBound_lit (ht.fraction_bounds s hs)

theorem TableOrder.fraction_zero : toRat (slotFraction spec 0) = 0 := by
  obtain ⟨hf, h0, -⟩ := ht.fraction_mem (show 0 < 32 by norm_num)
  have h := (le_iff hf zero_lit.1).1 ht.fraction_first
  rw [zero_lit.2] at h
  exact le_antisymm h h0

theorem TableOrder.fraction_le {s s' : Nat} (h : s ≤ s') (hs' : s' < 32) :
    toRat (slotFraction spec s) ≤ toRat (slotFraction spec s') :=
  toRat_le_of_chain (fun s hs => (ht.fraction_mem hs).1) (fun s hs => ht.fraction_mono s (by omega))
    h hs'

theorem TableOrder.offset_mem {s : Nat} (hs : s < 32) :
    (slotOffset spec s).isFinite = true ∧ 0 ≤ toRat (slotOffset spec s) ∧
      toRat (slotOffset spec s) ≤ 128 :=
  toRat_mem offsetBound_lit (ht.offset_bounds s hs)

theorem TableOrder.offset_le {s s' : Nat} (h : s ≤ s') (hs' : s' < 32) :
    toRat (slotOffset spec s) ≤ toRat (slotOffset spec s') :=
  toRat_le_of_chain (fun s hs => (ht.offset_mem hs).1) (fun s hs => ht.offset_mono s (by omega))
    h hs'

theorem TableOrder.start_mem {g : Nat} (hg : g < 12) :
    (groupStart spec g).isFinite = true ∧ 0 ≤ toRat (groupStart spec g) ∧
      toRat (groupStart spec g) ≤ 2048 :=
  toRat_mem startBound_lit (ht.start_bounds g hg)

theorem TableOrder.delay : spec.interReturnDelay.isFinite = true ∧ toRat spec.interReturnDelay = 0 := by
  obtain ⟨hf, h1, h0⟩ := ht.delay_zero
  obtain ⟨-, hm0, hm1⟩ := toRat_mem zero_lit ⟨hf, h0, h1⟩
  exact ⟨hf, le_antisymm hm1 hm0⟩

theorem TableOrder.slotStart {g s : Nat} (hg : g < 12) (hs : s < 32) :
    (groupStart spec g + slotOffset spec s).isFinite = true ∧
      toRat (groupStart spec g + slotOffset spec s) =
        round64 (toRat (groupStart spec g) + toRat (slotOffset spec s)) ∧
      0 ≤ toRat (groupStart spec g + slotOffset spec s) ∧
      toRat (groupStart spec g + slotOffset spec s) ≤ 2176 := by
  obtain ⟨hPf, hP0, hP1⟩ := ht.start_mem hg
  obtain ⟨hSf, hS0, hS1⟩ := ht.offset_mem hs
  obtain ⟨hf, hv, h0, h1⟩ := add_mem hPf hSf (show 2176 < 2 ^ 53 by norm_num) (by linarith)
    (by push_cast; linarith)
  exact ⟨hf, hv, h0, by exact_mod_cast h1⟩

theorem TableOrder.slotStart_le {g s s' : Nat} (hg : g < 12) (h : s ≤ s') (hs' : s' < 32) :
    toRat (groupStart spec g + slotOffset spec s) ≤
      toRat (groupStart spec g + slotOffset spec s') := by
  rw [(ht.slotStart hg (by omega)).2.1, (ht.slotStart hg hs').2.1]
  exact round64_mono (by linarith [ht.offset_le h hs'])

theorem TableOrder.slotStart_gap {g : Nat} (hg : g < 11) :
    toRat (groupStart spec g + slotOffset spec 31) ≤
      toRat (groupStart spec (g + 1) + slotOffset spec 0) :=
  (le_iff (ht.slotStart (by omega) (by norm_num)).1 (ht.slotStart (by omega) (by norm_num)).1).1
    (ht.group_gap g hg)

/-- A row's timestamp: the packet time plus the start of its slot, rounded once. The return
index adds nothing, the delay between returns being zero. -/
theorem TableOrder.timestamp {mode : ReturnMode} {ts b s r : Nat} (hts : ts < 2 ^ 32)
    (hb : b < 12) (hs : s < 32) (hr : r ≤ 1) :
    (Float.ofNat ts + offset spec mode b s r).isFinite = true ∧
      toRat (Float.ofNat ts + offset spec mode b s r) =
        round64 (ts + toRat (groupStart spec (group spec mode b) + slotOffset spec s)) := by
  have hg : group spec mode b < 12 := lt_of_le_of_lt (Nat.div_le_self _ _) hb
  obtain ⟨hBf, -, hB0, hB1⟩ := ht.slotStart hg hs
  obtain ⟨hDf, hD⟩ := ht.delay
  obtain ⟨hrf, -⟩ := ofNat_eq (show r < 2 ^ 53 by omega)
  -- the return's delay is a product with zero, and adding it changes nothing
  obtain ⟨hdf, -, hd0, hd1⟩ := mul_mem hrf hDf (show 0 < 2 ^ 53 by norm_num)
    (by rw [hD, mul_zero]) (by rw [hD, mul_zero]; rfl)
  have hd : toRat (Float.ofNat r * spec.interReturnDelay) = 0 :=
    le_antisymm (by exact_mod_cast hd1) hd0
  obtain ⟨hof, hov, -⟩ := add_mem hBf hdf (show 2176 < 2 ^ 53 by norm_num)
    (by rw [hd, add_zero]; exact hB0) (by rw [hd, add_zero]; exact_mod_cast hB1)
  rw [hd, add_zero, round64_toRat hBf] at hov
  obtain ⟨htf, htv⟩ := ofNat_eq (show ts < 2 ^ 53 by omega)
  have hts' : (ts : ℚ) < 2 ^ 32 := by exact_mod_cast hts
  obtain ⟨hf, hv, -⟩ := add_mem htf hof (show 2 ^ 32 + 2176 < 2 ^ 53 by norm_num)
    (by rw [htv, hov]; positivity) (by rw [htv, hov]; push_cast; linarith)
  have hoff : offset spec mode b s r = groupStart spec (group spec mode b) + slotOffset spec s +
      Float.ofNat r * spec.interReturnDelay := rfl
  rw [hoff]
  exact ⟨hf, by rw [hv, htv, hov]⟩

end TableOrder

end Firing

namespace Synthesis

def forwardStep (a b : Nat) : Nat := (((b : Int) - a) % 36000).toNat

theorem forwardStep_eq {a b : Nat} (ha : a < 2 ^ 52) (hb : b < 2 ^ 52) :
    (Float.floorRem (Float.ofNat b - Float.ofNat a) 36000.0).isFinite = true ∧
      toRat (Float.floorRem (Float.ofNat b - Float.ofNat a) 36000.0) = forwardStep a b := by
  obtain ⟨haf, hav⟩ := ofNat_eq (show a < 2 ^ 53 by omega)
  obtain ⟨hbf, hbv⟩ := ofNat_eq (show b < 2 ^ 53 by omega)
  have hv : |((b : Int) - a)| < 2 ^ 53 := by rw [abs_lt]; omega
  have hsmall : |toRat (Float.ofNat b) - toRat (Float.ofNat a)| < 2 ^ 1023 := by
    rw [hbv, hav]
    exact lt_overflow (by exact_mod_cast hv)
  obtain ⟨hdf, hdv⟩ := sub_eq hbf haf hsmall
  rw [hbv, hav, show (b : ℚ) - a = (((b : Int) - a : Int) : ℚ) by push_cast; ring,
    round64_intCast hv] at hdv
  obtain ⟨hrf, hrv⟩ := floorRem_eq hdf centiTurn_lit.1 (by rw [centiTurn_lit.2]; norm_num)
    (by rw [centiTurn_lit.2]; exact lt_overflow (by norm_num))
  refine ⟨hrf, ?_⟩
  -- an integer's floored remainder by `36000` is its `Int` remainder, which is exact
  have hfloor : ⌊(((b : Int) - a : Int) : ℚ) / 36000⌋ = ((b : Int) - a) / 36000 := by
    exact_mod_cast Rat.floor_intCast_div_natCast ((b : Int) - a) 36000
  have hmod : (((b : Int) - a : Int) : ℚ) - 36000 * (((b : Int) - a) / 36000 : Int) =
      (((b : Int) - a) % 36000 : Int) := by
    rw [Int.emod_def]
    push_cast
    ring
  have hnonneg : 0 ≤ ((b : Int) - a) % 36000 := Int.emod_nonneg _ (by norm_num)
  have hlt : ((b : Int) - a) % 36000 < 36000 := Int.emod_lt_of_pos _ (by norm_num)
  rw [hrv, hdv, centiTurn_lit.2, hfloor, hmod, forwardStep]
  rw [show ((((b : Int) - a) % 36000).toNat : ℚ) = (((b : Int) - a) % 36000 : Int) by
    exact_mod_cast Int.toNat_of_nonneg hnonneg]
  exact round64_intCast (by rw [abs_lt]; omega)

theorem azimuthDeltas_getD {L : List Float} (hL : 2 ≤ L.length) {g : Nat} (hg : g < L.length) :
    (Geometry.azimuthDeltas L).getD g 0.0 =
      Float.floorRem (L.getD (min g (L.length - 2) + 1) 0.0 - L.getD (min g (L.length - 2)) 0.0)
        36000.0 := by
  obtain ⟨a, b, t, rfl⟩ : ∃ a b t, L = a :: b :: t := by
    match L, hL with
    | a :: b :: t, _ => exact ⟨a, b, t, rfl⟩
  have hsteps : ∀ i (hi : i < t.length + 1),
      (((a :: b :: t).zip (a :: b :: t).tail).map fun (x : Float × Float) =>
        Float.floorRem (x.2 - x.1) 36000.0).getD i 0.0 =
      Float.floorRem ((a :: b :: t).getD (i + 1) 0.0 - (a :: b :: t).getD i 0.0) 36000.0 := by
    intro i hi
    rw [List.getD_eq_getElem _ _ (by simp; omega), List.getElem_map, List.getElem_zip,
      List.getD_eq_getElem _ _ (by simp; omega), List.getD_eq_getElem _ _ (by simp; omega)]
    simp
  simp only [Geometry.azimuthDeltas, List.length_cons] at hg ⊢
  by_cases hlast : g < t.length + 1
  · rw [List.getD_append _ _ _ _ (by simp; omega), Nat.min_eq_left (by omega)]
    exact hsteps g hlast
  · -- the last group reuses the step before it
    obtain rfl : g = t.length + 1 := by omega
    rw [List.getD_append_right _ _ _ _ (by simp), Nat.min_eq_right (by omega),
      show t.length + 1 + 1 - 2 = t.length by omega, ← hsteps t.length (by omega),
      List.getLastD_eq_getLast?, List.getLast?_eq_getElem?, List.getD_eq_getElem?_getD]
    simp

def groupCount (spec : Sensor.Spec) (mode : ReturnMode) : Nat :=
  12 / ReturnMode.blocksPerGroup spec mode

def leader (spec : Sensor.Spec) (p : Packet) (g : Nat) : Nat :=
  (p.blocks.getD (g * ReturnMode.blocksPerGroup spec p.footer.returnMode) default).azimuth

def leaderStep (spec : Sensor.Spec) (p : Packet) (g : Nat) : Nat :=
  forwardStep (leader spec p g) (leader spec p (g + 1))

def groupStep (spec : Sensor.Spec) (p : Packet) (g : Nat) : Nat :=
  leaderStep spec p (min g (groupCount spec p.footer.returnMode - 2))

theorem length_groupBlocks (spec : Sensor.Spec) (mode : ReturnMode) :
    (groupBlocks spec mode).length = groupCount spec mode := by
  simp [groupBlocks, groupCount, length_groupMembers, Sensor.blocksPerPacket]

theorem groupDeltas_getD {spec : Sensor.Spec} {p : Packet}
    (hG : 2 ≤ groupCount spec p.footer.returnMode)
    (hlead : ∀ g < groupCount spec p.footer.returnMode, leader spec p g < 2 ^ 52) {g : Nat}
    (hg : g < groupCount spec p.footer.returnMode) :
    ((groupDeltas spec p).getD g 0.0).isFinite = true ∧
      toRat ((groupDeltas spec p).getD g 0.0) = groupStep spec p g := by
  set G := groupCount spec p.footer.returnMode
  have hL : ((List.range G).map fun g => Float.ofNat (leader spec p g)).length = G := by simp
  have hd : groupDeltas spec p =
      Geometry.azimuthDeltas ((List.range G).map fun g => Float.ofNat (leader spec p g)) := by
    rw [groupDeltas, length_groupBlocks]
    rfl
  have hget : ∀ i < G, ((List.range G).map fun g => Float.ofNat (leader spec p g)).getD i 0.0 =
      Float.ofNat (leader spec p i) := by
    intro i hi
    rw [List.getD_eq_getElem _ _ (by simp; omega)]
    simp
  rw [hd, azimuthDeltas_getD (by rw [hL]; exact hG) (by rw [hL]; exact hg), hL,
    hget _ (by omega), hget _ (by omega)]
  exact forwardStep_eq (hlead _ (by omega)) (hlead _ (by omega))

/-- The interpolated azimuth of a row in degrees, before it is reduced to a turn: the raw
azimuth `a` advanced by the fraction `f` of the step `d`, in hundredths, then scaled by the
binary64 hundredth, each operation rounded. -/
def degrees (a f d : ℚ) : ℚ := round64 (round64 (a + round64 (f * d)) * hundredth)

def turnRem (x : ℚ) : ℚ := x - 360 * ⌊x / 360⌋

theorem azimuth_eq {a : Nat} {f d : Float} (ha : a < 2 ^ 16) (hf : f.isFinite = true)
    (hf0 : 0 ≤ toRat f) (hf1 : toRat f ≤ 1) (hd : d.isFinite = true) (hd0 : 0 ≤ toRat d)
    (hd1 : toRat d ≤ 2 ^ 16) :
    (Float.floorRem ((Float.ofNat a + f * d) * 0.01) 360.0).isFinite = true ∧
      toRat (Float.floorRem ((Float.ofNat a + f * d) * 0.01) 360.0) =
        turnRem (degrees a (toRat f) (toRat d)) := by
  obtain ⟨haf, hav⟩ := ofNat_eq (show a < 2 ^ 53 by omega)
  have ha' : (a : ℚ) < 2 ^ 16 := by exact_mod_cast ha
  have hκ : 0 ≤ hundredth ∧ hundredth ≤ 1 := by norm_num [hundredth]
  -- the step's part, the advanced raw azimuth and its scaling stay within `[0, 2^17]`
  obtain ⟨hpf, hpv, hp0, hp1⟩ := mul_mem hf hd (show 2 ^ 16 < 2 ^ 53 by norm_num)
    (mul_nonneg hf0 hd0) (by push_cast; nlinarith)
  obtain ⟨hcf, hcv, hc0, hc1⟩ := add_mem haf hpf (show 2 ^ 17 < 2 ^ 53 by norm_num)
    (by rw [hav]; positivity) (by rw [hav]; push_cast at hp1 ⊢; linarith)
  obtain ⟨hsf, hsv, hs0, -⟩ := mul_mem hcf hundredth_lit.1 (show 2 ^ 17 < 2 ^ 53 by norm_num)
    (by rw [hundredth_lit.2]; exact mul_nonneg hc0 hκ.1)
    (by rw [hundredth_lit.2]; nlinarith)
  obtain ⟨hrf, hrv⟩ := floorRem_eq_of_nonneg hsf turn_lit.1 hs0 (by rw [turn_lit.2]; norm_num)
    (by rw [turn_lit.2]; exact lt_overflow (by norm_num))
  have hdeg : toRat ((Float.ofNat a + f * d) * 0.01) = degrees a (toRat f) (toRat d) := by
    rw [hsv, hcv, hav, hpv, hundredth_lit.2]
    rfl
  exact ⟨hrf, by rw [hrv, hdeg, turn_lit.2, turnRem]⟩

theorem two_le_groupCount (model : Sensor.Model) (mode : ReturnMode) :
    2 ≤ groupCount model.spec mode := by
  cases model <;> cases mode <;> decide

theorem point_azimuth (spec : Sensor.Spec) (cal : Calibration) (cast : Geometry.ByteCast)
    (p : Packet) (deltas : List Float) (smp : Sample) :
    (point spec cal cast p deltas smp).azimuth = azimuthOf spec p deltas smp := rfl

/-- The azimuth of the row of slot `s` of block `b`: the floored remainder by a turn of the
block's raw azimuth advanced by the slot's fraction of its group's step. -/
theorem azimuthOf_eq {model : Sensor.Model} {p : Packet}
    (hraw : ∀ b < 12, (p.blocks.getD b default).azimuth < 2 ^ 16) {b s : Nat} (hb : b < 12)
    (hs : s < 32) :
    (azimuthOf model.spec p (groupDeltas model.spec p) (sampleAt model.spec p b s)).isFinite =
        true ∧
      toRat (azimuthOf model.spec p (groupDeltas model.spec p) (sampleAt model.spec p b s)) =
        turnRem (degrees (p.blocks.getD b default).azimuth
          (toRat (Firing.slotFraction model.spec s))
          (groupStep model.spec p (b / ReturnMode.blocksPerGroup model.spec p.footer.returnMode))) := by
  set P := ReturnMode.blocksPerGroup model.spec p.footer.returnMode
  have hP : 12 / P * P = 12 := groups_tile model _
  have hPpos : 0 < P := Nat.pos_of_ne_zero fun h => by simp [h] at hP
  have hg : b / P < groupCount model.spec p.footer.returnMode := by
    rw [groupCount, Nat.div_lt_iff_lt_mul hPpos, hP]
    exact hb
  -- every leader is a block's raw azimuth
  have hlead : ∀ g < groupCount model.spec p.footer.returnMode, leader model.spec p g < 2 ^ 52 := by
    intro g hg'
    have hgP : g * P < 12 := by
      have := Nat.mul_lt_mul_of_pos_right hg' hPpos
      rw [groupCount, hP] at this
      exact this
    exact lt_trans (hraw _ hgP) (by norm_num)
  obtain ⟨hdf, hdv⟩ := groupDeltas_getD (two_le_groupCount model _) hlead hg
  obtain ⟨hff, hf0, hf1⟩ := (Firing.tableOrder model).fraction_mem hs
  have hstep : groupStep model.spec p (b / P) < 36000 := by
    unfold groupStep leaderStep forwardStep
    omega
  have hd1 : toRat ((groupDeltas model.spec p).getD (b / P) 0.0) ≤ 2 ^ 16 := by
    rw [hdv]
    exact_mod_cast (show groupStep model.spec p (b / P) ≤ 2 ^ 16 by omega)
  have h := azimuth_eq (hraw b hb) hff hf0 (by linarith) hdf (by rw [hdv]; positivity) hd1
  rw [hdv] at h
  exact h

theorem timestamp_eq (model : Sensor.Model) (cal : Calibration) (cast : Geometry.ByteCast)
    {p : Packet} (hts : p.footer.timestamp < 2 ^ 32) {b s : Nat} (hb : b < 12) (hs : s < 32) :
    (point model.spec cal cast p (groupDeltas model.spec p)
        (sampleAt model.spec p b s)).timestamp.isFinite = true ∧
      toRat (point model.spec cal cast p (groupDeltas model.spec p)
        (sampleAt model.spec p b s)).timestamp =
        round64 (p.footer.timestamp +
          toRat (Firing.groupStart model.spec (b / ReturnMode.blocksPerGroup model.spec p.footer.returnMode) +
            Firing.slotOffset model.spec s)) := by
  have hr : (sampleAt model.spec p b s).choice.returnIndex ≤ 2 :=
    (returnIndex_choiceAt _ _ _ _).2
  exact (Firing.tableOrder model).timestamp hts hb hs (by omega)

end Synthesis

end SpinLidar
