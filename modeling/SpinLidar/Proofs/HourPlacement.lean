import SpinLidar.Proofs.FloatRemainder
import SpinLidar.Clock
namespace SpinLidar.Clock

open Rounding

/-- `R` is the instant nearest `r` among those `o` past an hour boundary, the earliest of two
equally near. -/
structure Nearest (r o R : Int) : Prop where
  onGrid : ∃ h : Int, R = h * hourMicros + o
  nearest : ∀ h : Int, (R - r).natAbs ≤ (h * hourMicros + o - r).natAbs
  earliest : ∀ h : Int, (h * hourMicros + o - r).natAbs = (R - r).natAbs → R ≤ h * hourMicros + o

theorem Nearest.natAbs_le {r o R : Int} (h : Nearest r o R) : 2 * (R - r).natAbs ≤ 3600000000 := by
  have h₁ := h.nearest ((r - o) / hourMicros)
  have h₂ := h.nearest ((r - o) / hourMicros + 1)
  simp only [hourMicros] at h₁ h₂
  omega

theorem Nearest.lt_of_half {r o R : Int} (h : Nearest r o R)
    (hhalf : 2 * (R - r).natAbs = 3600000000) : R < r := by
  obtain ⟨k, hk⟩ := h.onGrid
  have hprev := h.earliest (k - 1)
  simp only [hourMicros] at hk hprev
  omega

/-- The hour, counted from the reference's, of the instant nearest the reference when the offset
lies `δ` from it: the next hour when `δ` is more than half an hour before, the previous one when
it is half an hour or more after, the reference's own otherwise. -/
def hourShift (δ : Int) : Int :=
  if 2 * δ < -hourMicros then 1 else if 2 * δ < hourMicros then 0 else -1

theorem hourShift_nearest {δ : Int} (hlo : -hourMicros < δ) (hhi : δ ≤ hourMicros) (j : Int) :
    (hourShift δ * hourMicros + δ).natAbs ≤ (j * hourMicros + δ).natAbs ∧
      ((j * hourMicros + δ).natAbs = (hourShift δ * hourMicros + δ).natAbs → hourShift δ ≤ j) := by
  unfold hourShift
  simp only [hourMicros] at *
  split_ifs <;> omega

theorem foldl_closer (d : Int → Nat) (a b c : Int) :
    [a, b, c].foldl (fun x y => if d y < d x then y else x) a =
      if d b < d a then (if d c < d b then c else b) else (if d c < d a then c else a) := by
  simp only [List.foldl_cons, List.foldl_nil, lt_self_iff_false, if_false]
  split_ifs <;> rfl

theorem closest_candidate (r o : Int) (h0 : 0 ≤ o) (h1 : o ≤ hourMicros) :
    ([r / hourMicros - 1, r / hourMicros, r / hourMicros + 1].map fun h => h * hourMicros + o).foldl
        (fun (b : Int) c => if (c - r).natAbs < (b - r).natAbs then c else b)
        ((r / hourMicros - 1) * hourMicros + o) =
      (r / hourMicros + hourShift (o - r % hourMicros)) * hourMicros + o := by
  simp only [List.map_cons, List.map_nil]
  rw [foldl_closer (fun c => (c - r).natAbs)]
  unfold hourShift
  simp only [hourMicros] at *
  split_ifs <;> omega

theorem nearest_shift (r o : Int) (h0 : 0 ≤ o) (h1 : o ≤ hourMicros) :
    Nearest r o ((r / hourMicros + hourShift (o - r % hourMicros)) * hourMicros + o) := by
  obtain ⟨hlo, hhi⟩ : -hourMicros < o - r % hourMicros ∧ o - r % hourMicros ≤ hourMicros := by
    simp only [hourMicros] at *
    omega
  refine ⟨⟨_, rfl⟩, fun h => ?_, fun h heq => ?_⟩
  · have hj := (hourShift_nearest hlo hhi (h - r / hourMicros)).1
    simp only [hourMicros] at *
    omega
  · have hj := (hourShift_nearest hlo hhi (h - r / hourMicros)).2
    simp only [hourMicros] at *
    have := hj (by omega)
    omega

theorem offsetOf_eq {t : Float} (ht : t.isFinite = true) (h0 : 0 ≤ toRat t)
    (h1 : toRat t ≤ 3600000000) :
    offsetOf t = some (rne (toRat t)) ∧ 0 ≤ rne (toRat t) ∧ rne (toRat t) ≤ hourMicros := by
  have hlo : 0 ≤ rne (toRat t) := le_rne (by simpa using h0)
  have hhi : rne (toRat t) ≤ 3600000000 := rne_le (by exact_mod_cast h1)
  have hpow : Int.pow 2 63 = 9223372036854775808 := by decide
  refine ⟨?_, hlo, hhi⟩
  unfold offsetOf
  rw [roundInt_eq ht, hpow]
  dsimp only
  rw [if_pos (by simp only [Bool.and_eq_true, decide_eq_true_eq]; omega)]

theorem wrap64_of_natAbs_lt {x : Int} (h : x.natAbs < 2 ^ 63) : wrap64 x = x := by
  have hm : ((Nat.pow 2 64 : Nat) : Int) = 2 * 2 ^ 63 := by decide
  exact Int.bmod_eq_of_le_mul_two (by omega) (by omega)

theorem ne_notATime {x : Int} (h : x.natAbs < 2 ^ 63) : x ≠ notATime := by
  have : notATime = -2 ^ 63 := by decide
  omega

theorem add64_of_natAbs_lt {a b : Int} (ha : a.natAbs < 2 ^ 63) (hb : b.natAbs < 2 ^ 63)
    (hab : (a + b).natAbs < 2 ^ 63) : add64 a b = a + b := by
  rw [add64, if_neg (by simp [ne_notATime ha, ne_notATime hb]), wrap64_of_natAbs_lt hab]

theorem gap64_of_natAbs_lt {a b : Int} (ha : a.natAbs < 2 ^ 63) (hb : b.natAbs < 2 ^ 63)
    (hab : (a - b).natAbs < 2 ^ 63) : gap64 a b = some (a - b).natAbs := by
  rw [gap64, wrap64_of_natAbs_lt hab,
    if_neg (by simp [ne_notATime ha, ne_notATime hb, ne_notATime hab])]

theorem foldl_closer_some (d : Int → Nat) (l : List Int) (a : Int) :
    (l.map fun c => (c, some (d c))).foldl closer (a, some (d a)) =
      let b := l.foldl (fun b c => if d c < d b then c else b) a
      (b, some (d b)) := by
  induction l generalizing a with
  | nil => rfl
  | cons c l ih =>
    have hstep : closer (a, some (d a)) (c, some (d c)) =
        (if d c < d a then c else a, some (d (if d c < d a then c else a))) := by
      show (if d c < d a then (c, some (d c)) else (a, some (d a))) = _
      split_ifs <;> rfl
    simp only [List.map_cons, List.foldl_cons, hstep, ih]

theorem candidate_bounds {r o h : Int} (h0 : 0 ≤ o) (h1 : o ≤ hourMicros)
    (hr : r.natAbs + 2 * hourMicros < 2 ^ 63)
    (hh : h ∈ [r / hourMicros - 1, r / hourMicros, r / hourMicros + 1]) :
    (h * hourMicros).natAbs < 2 ^ 63 ∧ (h * hourMicros + o).natAbs < 2 ^ 63 ∧
      (h * hourMicros + o - r).natAbs < 2 ^ 63 := by
  simp only [List.mem_cons, List.not_mem_nil, or_false] at hh
  simp only [hourMicros] at *
  rcases hh with rfl | rfl | rfl <;> omega

/-- Within two hours of a reference well inside the int64 range, the candidates and their
distances to the reference are computed without wrapping. -/
theorem scored_candidates {r o : Int} (h0 : 0 ≤ o) (h1 : o ≤ hourMicros)
    (hr : r.natAbs + 2 * hourMicros < 2 ^ 63) :
    ([r / hourMicros - 1, r / hourMicros, r / hourMicros + 1].map
        fun h => add64 (wrap64 (h * hourMicros)) o).map (fun c => (c, gap64 c r)) =
      ([r / hourMicros - 1, r / hourMicros, r / hourMicros + 1].map (· * hourMicros + o)).map
        fun c => (c, some (c - r).natAbs) := by
  have ho : o.natAbs < 2 ^ 63 := by
    simp only [hourMicros] at h1
    omega
  rw [List.map_map, List.map_map]
  refine List.map_congr_left fun h hh => ?_
  obtain ⟨hh1, hh2, hh3⟩ := candidate_bounds h0 h1 hr hh
  simp only [Function.comp_apply, wrap64_of_natAbs_lt hh1, add64_of_natAbs_lt hh1 ho hh2,
    gap64_of_natAbs_lt hh2 (by omega) hh3]

theorem nearReference_eq {r : Int} {t : Float} {o : Int} (hoff : offsetOf t = some o)
    (h0 : 0 ≤ o) (h1 : o ≤ hourMicros) (hr : r.natAbs + 2 * hourMicros < 2 ^ 63) :
    nearReference r t =
      some ((r / hourMicros + hourShift (o - r % hourMicros)) * hourMicros + o) := by
  have hbest := closest_candidate r o h0 h1
  have hin : ((r / hourMicros + hourShift (o - r % hourMicros)) * hourMicros + o).natAbs < 2 ^ 63 := by
    unfold hourShift
    simp only [hourMicros] at *
    split_ifs <;> omega
  have hhead : (([r / hourMicros - 1, r / hourMicros, r / hourMicros + 1].map
      (· * hourMicros + o)).map (fun c => (c, some (c - r).natAbs))).headD (0, none) =
      ((r / hourMicros - 1) * hourMicros + o,
        some ((r / hourMicros - 1) * hourMicros + o - r).natAbs) := rfl
  unfold nearReference
  dsimp only
  rw [hoff, Option.getD_some, scored_candidates h0 h1 hr, hhead,
    foldl_closer_some (fun c => (c - r).natAbs)]
  simp only [List.map_cons, List.map_nil] at hbest ⊢
  rw [hbest, if_neg (ne_notATime hin)]

theorem nearReference_nearest (r : Int) (hr : r.natAbs + 2 * hourMicros < 2 ^ 63) {t : Float}
    (ht : t.isFinite = true) (h0 : 0 ≤ toRat t) (h1 : toRat t ≤ 3600000000) :
    ∃ R, nearReference r t = some R ∧ Nearest r (rne (toRat t)) R := by
  obtain ⟨hoff, ho0, ho1⟩ := offsetOf_eq ht h0 h1
  exact ⟨_, nearReference_eq hoff ho0 ho1 hr, nearest_shift r _ ho0 ho1⟩

/-- Placing timestamps near a reference time. For a reference that stands for a time, each
timestamp between zero and one hour, rounded half to even, is placed on its own at the instant
nearest the reference among all those it stands for past an hour boundary, the earliest of two
equally near. That instant is at most half an hour from the reference, and exactly half an hour
only before it. -/
theorem placeNear_nearest (reference : String) (c : Civil) (hc : parse reference = .ok (some c))
    (hrange : c.micros.natAbs + 7200000000 < 2 ^ 63)
    (ts : List Float) (hts : ∀ t ∈ ts, t.isFinite = true ∧ 0 ≤ toRat t ∧ toRat t ≤ 3600000000) :
    (∃ ws, placeNear reference ts = .ok (ts.map (nearReference c.micros), ws)) ∧
      ∀ t ∈ ts, ∃ R, nearReference c.micros t = some R ∧ Nearest c.micros (rne (toRat t)) R ∧
        2 * (R - c.micros).natAbs ≤ 3600000000 ∧
        (2 * (R - c.micros).natAbs = 3600000000 → R < c.micros) := by
  have hwrap : wrap64 c.micros = c.micros := wrap64_of_natAbs_lt (by omega)
  refine ⟨⟨if ts.any outsideTwoHours then [outsideWarning] else [], ?_⟩, fun t ht => ?_⟩
  · rw [placeNear, hc]
    simp only [bind, Except.bind, hwrap, if_neg (ne_notATime (show c.micros.natAbs < 2 ^ 63 by omega))]
    rfl
  obtain ⟨hfin, h0, h1⟩ := hts t ht
  obtain ⟨R, hR, hnear⟩ := nearReference_nearest c.micros (by simp only [hourMicros]; omega) hfin h0 h1
  exact ⟨R, hR, hnear, hnear.natAbs_le, hnear.lt_of_half⟩

theorem placeNear_nearest_across_midnight :
    let c : Civil := ⟨2024, 1, 4, 23, 59, 50, 0, 0⟩
    let ts := [Float.ofNat 3599000000, Float.ofNat 1000000]
    parse "2024-01-04T23:59:50" = .ok (some c) ∧
      c.micros.natAbs + 7200000000 < 2 ^ 63 ∧
      (∀ t ∈ ts, t.isFinite = true ∧ 0 ≤ toRat t ∧ toRat t ≤ 3600000000) ∧
      (∃ ws, placeNear "2024-01-04T23:59:50" ts = .ok (ts.map (nearReference c.micros), ws)) ∧
      ∀ t ∈ ts, ∃ R, nearReference c.micros t = some R ∧ Nearest c.micros (rne (toRat t)) R ∧
        2 * (R - c.micros).natAbs ≤ 3600000000 ∧
        (2 * (R - c.micros).natAbs = 3600000000 → R < c.micros) := by
  intro c ts
  have hc : parse "2024-01-04T23:59:50" = .ok (some c) := by decide +kernel
  have hts : ∀ t ∈ ts, t.isFinite = true ∧ 0 ≤ toRat t ∧ toRat t ≤ 3600000000 := by
    intro t ht
    simp only [ts, List.mem_cons, List.not_mem_nil, or_false] at ht
    rcases ht with rfl | rfl
    · obtain ⟨hf, hv⟩ := ofNat_eq (show 3599000000 < 2 ^ 53 by norm_num)
      exact ⟨hf, by rw [hv]; norm_num, by rw [hv]; norm_num⟩
    · obtain ⟨hf, hv⟩ := ofNat_eq (show 1000000 < 2 ^ 53 by norm_num)
      exact ⟨hf, by rw [hv]; norm_num, by rw [hv]; norm_num⟩
  have hrange : c.micros.natAbs + 7200000000 < 2 ^ 63 := by decide
  exact ⟨hc, hrange, hts, placeNear_nearest _ _ hc hrange _ hts⟩

end SpinLidar.Clock
