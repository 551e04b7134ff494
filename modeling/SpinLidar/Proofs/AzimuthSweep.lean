import SpinLidar.Proofs.RowValues
namespace SpinLidar.Synthesis

open Rounding Packet

/-- A quantity on (firing group, slot) that never decreases from a slot to the next within the
first `G` groups, nor from the last slot of a group to the first slot of the next. -/
structure SlotOrdered (G : Nat) (φ : Nat → Nat → ℚ) : Prop where
  slot : ∀ g < G, ∀ s < 31, φ g s ≤ φ g (s + 1)
  group : ∀ g, g + 1 < G → φ g 31 ≤ φ (g + 1) 0

section SlotOrdered

variable {G : Nat} {φ : Nat → Nat → ℚ}

theorem SlotOrdered.rank_le (h : SlotOrdered G φ) {n n' : Nat} (hn : n ≤ n') (hn' : n' < 32 * G) :
    φ (n / 32) (n % 32) ≤ φ (n' / 32) (n' % 32) := by
  induction n', hn using Nat.le_induction with
  | base => exact le_rfl
  | succ k hk ih =>
    refine (ih (by omega)).trans ?_
    -- the next slot of the same group, or the first slot of the next group
    by_cases hlast : k % 32 = 31
    · rw [show (k + 1) / 32 = k / 32 + 1 by omega, show (k + 1) % 32 = 0 by omega, hlast]
      exact h.group _ (by omega)
    · rw [show (k + 1) / 32 = k / 32 by omega, show (k + 1) % 32 = k % 32 + 1 by omega]
      exact h.slot _ (by omega) _ (by omega)

theorem SlotOrdered.le (h : SlotOrdered G φ) {g s g' s' : Nat} (hs : s < 32) (hg' : g' < G)
    (hs' : s' < 32) (hlex : g < g' ∨ g = g' ∧ s ≤ s') : φ g s ≤ φ g' s' := by
  have := h.rank_le (show 32 * g + s ≤ 32 * g' + s' by omega) (by omega)
  rwa [show (32 * g + s) / 32 = g by omega, show (32 * g + s) % 32 = s by omega,
    show (32 * g' + s') / 32 = g' by omega, show (32 * g' + s') % 32 = s' by omega] at this

end SlotOrdered

theorem mem_emissionOrder_group {spec : Sensor.Spec} {mode : ReturnMode} {x : Nat × Nat}
    (hx : x ∈ emissionOrder spec mode) :
    x.1 / ReturnMode.blocksPerGroup spec mode < groupCount spec mode ∧ x.2 < 32 := by
  simp only [emissionOrder, length_groupMembers, List.mem_flatMap, List.mem_range,
    List.mem_map] at hx
  obtain ⟨g, hg, s, hs, m, hm, rfl⟩ := hx
  rw [group_div (mem_groupMembers.1 hm)]
  exact ⟨hg, hs⟩

theorem emissionOrder_lex (spec : Sensor.Spec) (mode : ReturnMode) :
    (emissionOrder spec mode).Pairwise fun x y =>
      x.1 / ReturnMode.blocksPerGroup spec mode < y.1 / ReturnMode.blocksPerGroup spec mode ∨
        x.1 / ReturnMode.blocksPerGroup spec mode = y.1 / ReturnMode.blocksPerGroup spec mode ∧
          x.2 ≤ y.2 := by
  have hdiv : ∀ {g m}, m ∈ ReturnMode.groupMembers spec mode →
      (g * ReturnMode.blocksPerGroup spec mode + m) / ReturnMode.blocksPerGroup spec mode = g :=
    fun hm => group_div (mem_groupMembers.1 hm)
  unfold emissionOrder
  rw [List.pairwise_flatMap]
  refine ⟨fun g _ => ?_, List.pairwise_lt_range.imp_of_mem fun _ _ hlt => ?_⟩
  · rw [List.pairwise_flatMap]
    refine ⟨fun s _ => ?_, List.pairwise_lt_range.imp_of_mem fun _ _ hlt => ?_⟩
    · -- the members of one slot share its group and its slot
      refine List.pairwise_of_forall_mem_list fun x hx y hy => ?_
      simp only [List.mem_map] at hx hy
      obtain ⟨m, hm, rfl⟩ := hx
      obtain ⟨m', hm', rfl⟩ := hy
      exact .inr ⟨by rw [hdiv hm, hdiv hm'], le_rfl⟩
    · intro x hx y hy
      simp only [List.mem_map] at hx hy
      obtain ⟨m, hm, rfl⟩ := hx
      obtain ⟨m', hm', rfl⟩ := hy
      exact .inr ⟨by rw [hdiv hm, hdiv hm'], hlt.le⟩
  · intro x hx y hy
    simp only [List.mem_flatMap, List.mem_map] at hx hy
    obtain ⟨s, -, m, hm, rfl⟩ := hx
    obtain ⟨s', -, m', hm', rfl⟩ := hy
    exact .inl (by rw [hdiv hm, hdiv hm']; exact hlt)

theorem SlotOrdered.pairwise_emissionOrder {spec : Sensor.Spec} {mode : ReturnMode}
    {φ : Nat → Nat → ℚ} (h : SlotOrdered (groupCount spec mode) φ) :
    (emissionOrder spec mode).Pairwise fun x y =>
      φ (x.1 / ReturnMode.blocksPerGroup spec mode) x.2 ≤
        φ (y.1 / ReturnMode.blocksPerGroup spec mode) y.2 :=
  (emissionOrder_lex spec mode).imp_of_mem fun hx hy hlex =>
    h.le (mem_emissionOrder_group hx).2 (mem_emissionOrder_group hy).1
      (mem_emissionOrder_group hy).2 hlex

theorem turnRem_mem (x : ℚ) : 0 ≤ turnRem x ∧ turnRem x < 360 := by
  have h1 := Int.floor_le (x / 360)
  have h2 := Int.lt_floor_add_one (x / 360)
  unfold turnRem
  constructor
  · nlinarith
  · nlinarith

theorem turnRem_of_lt {x : ℚ} (h0 : 0 ≤ x) (h1 : x < 360) : turnRem x = x := by
  have : ⌊x / 360⌋ = 0 := Int.floor_eq_zero_iff.2 ⟨by positivity, by rw [div_lt_one (by norm_num)]; exact h1⟩
  simp [turnRem, this]

theorem turnRem_of_ge {x : ℚ} (h0 : 360 ≤ x) (h1 : x < 720) : turnRem x = x - 360 := by
  have : ⌊x / 360⌋ = 1 := by
    rw [Int.floor_eq_iff]
    constructor
    · rw [le_div_iff₀ (by norm_num)]
      push_cast
      linarith
    · rw [div_lt_iff₀ (by norm_num)]
      push_cast
      linarith
  simp [turnRem, this]

theorem turnRem_add_turn (x : ℚ) : turnRem (x + 360) = turnRem x := by
  rw [turnRem, turnRem, show (x + 360) / 360 = x / 360 + 1 by ring, Int.floor_add_one]
  push_cast
  ring

theorem descents_le_one {α : Type} (w : α → ℚ) : ∀ {l : List α},
    l.Pairwise (fun x y => w x ≤ w y) → (∀ x ∈ l, 0 ≤ w x ∧ w x < 720) →
    (l.zip l.tail).countP (fun q => decide (turnRem (w q.2) < turnRem (w q.1))) ≤ 1 ∧
      ∀ x ∈ l.head?, 360 ≤ w x →
        (l.zip l.tail).countP (fun q => decide (turnRem (w q.2) < turnRem (w q.1))) = 0
  | [], _, _ => by simp
  | [_], _, _ => by simp
  | a :: b :: t, hs, hr => by
    have ih := descents_le_one w hs.of_cons fun x hx => hr x (List.mem_cons_of_mem _ hx)
    have hab : w a ≤ w b := List.rel_of_pairwise_cons hs (List.mem_cons_self ..)
    obtain ⟨ha0, ha1⟩ := hr a (by simp)
    obtain ⟨hb0, hb1⟩ := hr b (by simp)
    simp only [List.tail_cons, List.zip_cons_cons, List.countP_cons, List.head?_cons,
      Option.mem_def, Option.some.injEq, forall_eq'] at ih ⊢
    -- whether `a` and `b` lie in the first or the second turn
    by_cases ha : 360 ≤ w a
    · have hb : 360 ≤ w b := ha.trans hab
      have hstep : ¬turnRem (w b) < turnRem (w a) := by
        rw [turnRem_of_ge hb hb1, turnRem_of_ge ha ha1]
        linarith
      simp [ih.2 hb, hstep]
    · by_cases hb : 360 ≤ w b
      · refine ⟨?_, fun h => absurd h ha⟩
        rw [ih.2 hb]
        split <;> simp
      · have hstep : ¬turnRem (w b) < turnRem (w a) := by
          rw [turnRem_of_lt hb0 (lt_of_not_ge hb), turnRem_of_lt ha0 (lt_of_not_ge ha)]
          linarith
        simp only [hstep, decide_false, Bool.false_eq_true, if_false, add_zero]
        exact ⟨ih.1, fun h => absurd h ha⟩

theorem degrees_nonneg {a f d : ℚ} (ha : 0 ≤ a) (hf : 0 ≤ f) (hd : 0 ≤ d) : 0 ≤ degrees a f d :=
  round64_nonneg (mul_nonneg (round64_nonneg (add_nonneg ha (round64_nonneg (mul_nonneg hf hd))))
    (by norm_num [hundredth]))

theorem degrees_mono {a f f' d : ℚ} (hd : 0 ≤ d) (h : f ≤ f') : degrees a f d ≤ degrees a f' d :=
  round64_mono (mul_le_mul_of_nonneg_right
    (round64_mono ((add_le_add_iff_left a).2 (round64_mono (mul_le_mul_of_nonneg_right h hd))))
    (by norm_num [hundredth]))

theorem degrees_le_next {a d : Nat} {f : ℚ} (had : a + d < 2 ^ 53) (hf0 : 0 ≤ f) (hf1 : f ≤ 1) :
    degrees a f d ≤ round64 ((a + d : Nat) * hundredth) := by
  have hd : round64 (f * d) ≤ d := by
    have := (round64_mem (show d < 2 ^ 53 by omega) (mul_nonneg hf0 (Nat.cast_nonneg d))
      (mul_le_of_le_one_left (Nat.cast_nonneg d) hf1)).2
    exact this
  have hs : round64 (a + round64 (f * d)) ≤ (a + d : Nat) := by
    have := (round64_mem had (add_nonneg (Nat.cast_nonneg a)
      (round64_nonneg (mul_nonneg hf0 (Nat.cast_nonneg d)))) (show (a : ℚ) + round64 (f * d) ≤ (a + d : Nat) by
        push_cast
        linarith)).2
    exact this
  exact round64_mono (mul_le_mul_of_nonneg_right hs (by norm_num [hundredth]))

theorem degrees_zero {a : Nat} (ha : a < 2 ^ 53) (d : ℚ) : degrees a 0 d = round64 (a * hundredth) := by
  rw [degrees, zero_mul, round64_zero, add_zero, round64_natCast ha]

theorem round64_le_of_lt {x : ℚ} {k : Nat} (hx : |x| < 2 ^ k) (hk : k ≤ 54) :
    round64 x ≤ x + 1 / 2 ^ (54 - k) := by
  have h := abs_round64_sub_le_of_lt (show |x| < (2 : ℚ) ^ (k : Int) by rwa [zpow_natCast])
    (by omega)
  rw [show (k : Int) - 54 = -((54 - k : Nat) : Int) by omega, zpow_neg, zpow_natCast, abs_le] at h
  rw [one_div]
  linarith [h.2]

theorem le_round64_of_lt {x : ℚ} {k : Nat} (hx : |x| < 2 ^ k) (hk : k ≤ 54) :
    x - 1 / 2 ^ (54 - k) ≤ round64 x := by
  have h := abs_round64_sub_le_of_lt (show |x| < (2 : ℚ) ^ (k : Int) by rwa [zpow_natCast])
    (by omega)
  rw [show (k : Int) - 54 = -((54 - k : Nat) : Int) by omega, zpow_neg, zpow_natCast, abs_le] at h
  rw [one_div]
  linarith [h.1]

theorem hundredth_eq : hundredth = 5764607523034235 / 576460752303423488 := by
  norm_num [hundredth]

theorem round64_hundredth_lt {N k : Nat} (hN : N + 1 ≤ 100 * k) (hk : k ≤ 1000) :
    round64 (N * hundredth) < k := by
  -- the binary64 hundredth exceeds `1/100` by far less than the hundredth of a degree left over
  have hN' : (N : ℚ) + 1 ≤ 100 * k := by exact_mod_cast hN
  have hk' : (k : ℚ) ≤ 1000 := by exact_mod_cast hk
  have herr := round64_le_of_lt (show |(N : ℚ) * hundredth| < 2 ^ 10 by
    rw [abs_of_nonneg (mul_nonneg (Nat.cast_nonneg N) (by norm_num [hundredth])), hundredth_eq]
    norm_num
    linarith) (by norm_num)
  generalize round64 ((N : ℚ) * hundredth) = r at herr ⊢
  rw [hundredth_eq] at herr
  norm_num at herr
  linarith

/-- Where the leader passes a turn, the last slot of the group stays at or below the first slot
of the next group plus a turn: the fraction of at most `31/32` leaves a thirty-second of the
step, at least a hundredth of a hundredth of a degree, against rounding errors below
`2 ^ -36`. -/
theorem degrees_le_wrap {a d : Nat} {f : ℚ} (ha : a < 36000) (hd : d < 36000)
    (hwrap : 36000 ≤ a + d) (hf0 : 0 ≤ f) (hf1 : f ≤ 31 / 32) :
    degrees a f d ≤ round64 ((a + d - 36000 : Nat) * hundredth) + 360 := by
  have ha' : (a : ℚ) < 36000 := by exact_mod_cast ha
  have hd' : (d : ℚ) < 36000 := by exact_mod_cast hd
  have hwrap' : (36000 : ℚ) ≤ a + d := by exact_mod_cast hwrap
  have hd1 : (1 : ℚ) ≤ d := by exact_mod_cast (show 1 ≤ d by omega)
  have hfd0 : 0 ≤ f * d := mul_nonneg hf0 (Nat.cast_nonneg d)
  have hfd : f * d ≤ 31 / 32 * d := mul_le_mul_of_nonneg_right hf1 (Nat.cast_nonneg d)
  have hκ0 : 0 ≤ hundredth := by norm_num [hundredth]
  -- the step's part, the advanced raw azimuth and its scaling each round by less than `2 ^ -36`
  have hp0 : 0 ≤ round64 (f * d) := round64_nonneg hfd0
  have hp : round64 (f * d) ≤ f * d + 1 / 2 ^ 38 := by
    have := round64_le_of_lt (show |f * d| < 2 ^ 16 by rw [abs_of_nonneg hfd0]; linarith)
      (by norm_num)
    norm_num at this ⊢
    linarith
  have hs0 : 0 ≤ round64 (a + round64 (f * d)) := round64_nonneg (by positivity)
  have hs : round64 (a + round64 (f * d)) ≤ a + round64 (f * d) + 1 / 2 ^ 37 := by
    have := round64_le_of_lt (show |(a : ℚ) + round64 (f * d)| < 2 ^ 17 by
      rw [abs_of_nonneg (by positivity)]; norm_num; linarith) (by norm_num)
    norm_num at this ⊢
    linarith
  have hc : degrees a f d ≤ round64 (a + round64 (f * d)) * hundredth + 1 / 2 ^ 44 := by
    have := round64_le_of_lt (show |round64 (a + round64 (f * d)) * hundredth| < 2 ^ 10 by
      rw [abs_of_nonneg (mul_nonneg hs0 hκ0), hundredth_eq]; norm_num; linarith) (by norm_num)
    rw [degrees]
    norm_num at this ⊢
    linarith
  -- the first slot of the next group, scaled, rounds down by less than `2 ^ -44`
  have hn : ((a + d - 36000 : Nat) : ℚ) = a + d - 36000 := by
    rw [Nat.cast_sub hwrap]
    push_cast
    ring
  have hr := le_round64_of_lt (show |((a + d - 36000 : Nat) : ℚ) * hundredth| < 2 ^ 10 by
    rw [abs_of_nonneg (mul_nonneg (Nat.cast_nonneg _) hκ0), hn, hundredth_eq]; norm_num; linarith)
    (by norm_num)
  generalize round64 (((a + d - 36000 : Nat) : ℚ) * hundredth) = r at hr ⊢
  generalize round64 (a + round64 (f * d)) = S at hs hc
  generalize round64 (f * d) = P at hp hs
  rw [hn, hundredth_eq] at hr
  rw [hundredth_eq] at hc
  norm_num at hr hc hs hp ⊢
  linarith

def unwrapped (spec : Sensor.Spec) (p : Packet) (g : Nat) : Nat :=
  leader spec p 0 + ∑ h ∈ Finset.range g, leaderStep spec p h

/-- A packet that sweeps less than a turn: every raw azimuth is below a turn, the blocks of each
firing group carry their leader's azimuth, and the steps between leaders, the last one counted
twice since the last group interpolates across it again, add up to less than a turn. -/
structure Sweep (spec : Sensor.Spec) (p : Packet) : Prop where
  below_turn : ∀ b < 12, (p.blocks.getD b default).azimuth < 36000
  shared : ∀ b < 12, (p.blocks.getD b default).azimuth =
    leader spec p (b / ReturnMode.blocksPerGroup spec p.footer.returnMode)
  short : (∑ g ∈ Finset.range (groupCount spec p.footer.returnMode - 1), leaderStep spec p g) +
    leaderStep spec p (groupCount spec p.footer.returnMode - 2) < 36000

def sweepAngle (spec : Sensor.Spec) (p : Packet) (g s : Nat) : ℚ :=
  degrees (leader spec p g) (toRat (Firing.slotFraction spec s)) (groupStep spec p g) +
    if 36000 ≤ unwrapped spec p g then 360 else 0

theorem unwrapped_succ (spec : Sensor.Spec) (p : Packet) (g : Nat) :
    unwrapped spec p (g + 1) = unwrapped spec p g + leaderStep spec p g := by
  rw [unwrapped, unwrapped, Finset.sum_range_succ, Nat.add_assoc]

theorem unwrapped_mono (spec : Sensor.Spec) (p : Packet) {g g' : Nat} (h : g ≤ g') :
    unwrapped spec p g ≤ unwrapped spec p g' :=
  Nat.add_le_add_left (Finset.sum_le_sum_of_subset (Finset.range_mono h)) _

theorem forwardStep_lt (a b : Nat) : forwardStep a b < 36000 := by
  unfold forwardStep
  omega

theorem turnRem_sweepAngle (spec : Sensor.Spec) (p : Packet) (g s : Nat) :
    turnRem (sweepAngle spec p g s) =
      turnRem (degrees (leader spec p g) (toRat (Firing.slotFraction spec s)) (groupStep spec p g)) := by
  unfold sweepAngle
  split_ifs
  · exact turnRem_add_turn _
  · rw [add_zero]

theorem block_lt_of_group {model : Sensor.Model} {mode : ReturnMode} {g : Nat}
    (hg : g < groupCount model.spec mode) : g * ReturnMode.blocksPerGroup model.spec mode < 12 := by
  have hP := groups_tile model mode
  have hPpos : 0 < ReturnMode.blocksPerGroup model.spec mode :=
    Nat.pos_of_ne_zero fun h => by simp [h] at hP
  have := Nat.mul_lt_mul_of_pos_right hg hPpos
  rwa [groupCount, hP] at this

theorem groupStep_eq {spec : Sensor.Spec} {p : Packet} {g : Nat}
    (hg : g + 1 < groupCount spec p.footer.returnMode) :
    groupStep spec p g = leaderStep spec p g := by
  rw [groupStep, Nat.min_eq_left (by omega)]

theorem sweepAngle_slot (model : Sensor.Model) (p : Packet) {g s : Nat} (hs : s < 31) :
    sweepAngle model.spec p g s ≤ sweepAngle model.spec p g (s + 1) := by
  unfold sweepAngle
  exact (add_le_add_iff_right _).2 (degrees_mono (Nat.cast_nonneg _)
    ((Firing.tableOrder model).fraction_le (Nat.le_succ s) (by omega)))

section Sweep

variable {model : Sensor.Model} {p : Packet} (hw : Sweep model.spec p)
include hw

theorem Sweep.leader_lt {g : Nat} (hg : g < groupCount model.spec p.footer.returnMode) :
    leader model.spec p g < 36000 :=
  hw.below_turn _ (block_lt_of_group hg)

theorem Sweep.reach {g : Nat} (hg : g < groupCount model.spec p.footer.returnMode) :
    unwrapped model.spec p g + groupStep model.spec p g < leader model.spec p 0 + 36000 := by
  have hG := two_le_groupCount model p.footer.returnMode
  have hshort := hw.short
  have hlast : unwrapped model.spec p (groupCount model.spec p.footer.returnMode - 1) =
      leader model.spec p 0 + ∑ h ∈ Finset.range (groupCount model.spec p.footer.returnMode - 1),
        leaderStep model.spec p h := rfl
  unfold groupStep
  by_cases hg' : g + 1 < groupCount model.spec p.footer.returnMode
  · -- a group before the last reaches the next leader
    rw [Nat.min_eq_left (by omega), ← unwrapped_succ]
    have := unwrapped_mono model.spec p (show g + 1 ≤ groupCount model.spec p.footer.returnMode - 1 by omega)
    omega
  · rw [Nat.min_eq_right (by omega), show g = groupCount model.spec p.footer.returnMode - 1 by omega]
    omega

theorem Sweep.leader_add {g : Nat} (hg : g < groupCount model.spec p.footer.returnMode) :
    leader model.spec p g + (if 36000 ≤ unwrapped model.spec p g then 36000 else 0) =
      unwrapped model.spec p g := by
  induction g with
  | zero =>
    have := hw.leader_lt hg
    simp [unwrapped, this]
  | succ g ih =>
    have ih := ih (by omega)
    have hl := hw.leader_lt hg
    have hl' := hw.leader_lt (show g < groupCount model.spec p.footer.returnMode by omega)
    have hl0 := hw.leader_lt (show 0 < groupCount model.spec p.footer.returnMode by omega)
    have hreach := hw.reach (show g < groupCount model.spec p.footer.returnMode by omega)
    rw [groupStep_eq hg] at hreach
    have hsucc := unwrapped_succ model.spec p g
    -- the step is the next leader's distance ahead, modulo a turn
    have hstep : leaderStep model.spec p g =
        (((leader model.spec p (g + 1) : Int) - leader model.spec p g) % 36000).toNat := rfl
    split_ifs at ih ⊢ <;> omega

/-- From the last slot of a group to the first of the next, the unwrapped angle does not
decrease: where the leader passes a turn, the turn added makes up for the raw azimuth's
reduction. -/
theorem Sweep.sweepAngle_group {g : Nat} (hg : g + 1 < groupCount model.spec p.footer.returnMode) :
    sweepAngle model.spec p g 31 ≤ sweepAngle model.spec p (g + 1) 0 := by
  have ht := Firing.tableOrder model
  obtain ⟨-, hf0, hf1⟩ := ht.fraction_mem (show 31 < 32 by norm_num)
  have hl := hw.leader_add (show g < groupCount model.spec p.footer.returnMode by omega)
  have hl' := hw.leader_add hg
  have hl0 := hw.leader_lt (show g < groupCount model.spec p.footer.returnMode by omega)
  have hl1 := hw.leader_lt hg
  have hsucc := unwrapped_succ model.spec p g
  have hd := forwardStep_lt (leader model.spec p g) (leader model.spec p (g + 1))
  unfold sweepAngle
  rw [ht.fraction_zero, degrees_zero (by omega), groupStep_eq hg]
  unfold leaderStep at hsucc ⊢
  generalize forwardStep (leader model.spec p g) (leader model.spec p (g + 1)) = d at hsucc hd ⊢
  -- where the leader does not pass a turn, the next leader is this one advanced by the step
  have hnext : leader model.spec p (g + 1) = leader model.spec p g + d →
      degrees (leader model.spec p g) (toRat (Firing.slotFraction model.spec 31)) d ≤
        round64 (leader model.spec p (g + 1) * hundredth) := by
    intro h
    rw [h]
    exact degrees_le_next (by omega) hf0 (by linarith)
  split_ifs at hl hl' ⊢ with hw0 hw1 hw1
  · linarith [hnext (by omega)]
  · omega
  · -- the leader passes a turn here
    have h := degrees_le_wrap hl0 hd (by omega) hf0 hf1
    rw [show leader model.spec p g + d - 36000 = leader model.spec p (g + 1) by omega] at h
    linarith
  · linarith [hnext (by omega)]

theorem Sweep.slotOrdered : SlotOrdered (groupCount model.spec p.footer.returnMode)
    (sweepAngle model.spec p) :=
  ⟨fun _ _ _ hs => sweepAngle_slot model p hs, fun _ hg => hw.sweepAngle_group hg⟩

theorem Sweep.sweepAngle_mem {g s : Nat} (hg : g < groupCount model.spec p.footer.returnMode)
    (hs : s < 32) : 0 ≤ sweepAngle model.spec p g s ∧ sweepAngle model.spec p g s < 720 := by
  obtain ⟨-, hf0, hf1⟩ := (Firing.tableOrder model).fraction_mem hs
  have hl := hw.leader_add hg
  have hl0 := hw.leader_lt (show 0 < groupCount model.spec p.footer.returnMode by omega)
  have hreach := hw.reach hg
  have hnext : degrees (leader model.spec p g) (toRat (Firing.slotFraction model.spec s))
      (groupStep model.spec p g) ≤
        round64 ((leader model.spec p g + groupStep model.spec p g : Nat) * hundredth) :=
    degrees_le_next (by omega) hf0 (by linarith)
  have h0 := degrees_nonneg (Nat.cast_nonneg (leader model.spec p g)) hf0
    (Nat.cast_nonneg (groupStep model.spec p g))
  unfold sweepAngle
  split_ifs at hl ⊢ with hwrap
  · -- past a turn, the interpolated azimuth stays below the first leader
    have h : round64 ((leader model.spec p g + groupStep model.spec p g : Nat) * hundredth) < 360 := by
      exact_mod_cast round64_hundredth_lt
        (show leader model.spec p g + groupStep model.spec p g + 1 ≤ 100 * 360 by omega) (by norm_num)
    constructor <;> linarith
  · have h : round64 ((leader model.spec p g + groupStep model.spec p g : Nat) * hundredth) < 720 := by
      exact_mod_cast round64_hundredth_lt
        (show leader model.spec p g + groupStep model.spec p g + 1 ≤ 100 * 720 by omega) (by norm_num)
    constructor <;> linarith

end Sweep

theorem parse_bounds {spec : Sensor.Spec} {buf : ByteArray} {p : Packet}
    (hp : parse spec buf = .ok p) :
    (∀ b < 12, (p.blocks.getD b default).azimuth < 2 ^ 16) ∧ p.footer.timestamp < 2 ^ 32 := by
  obtain ⟨-, -, mode, -, rfl⟩ := parse_eq_ok.1 hp
  refine ⟨fun b hb => ?_, ?_⟩
  · have h1 := byteAt_lt buf (100 * b + 2)
    have h2 := byteAt_lt buf (100 * b + 2 + 1)
    rw [readBlocks_getD hb, read_azimuth, azimuthAt, le16]
    omega
  · have h1 := byteAt_lt buf footerOffset
    have h2 := byteAt_lt buf (footerOffset + 1)
    have h3 := byteAt_lt buf (footerOffset + 2)
    have h4 := byteAt_lt buf (footerOffset + 2 + 1)
    simp only [footerOf, le32, le16]
    omega

theorem zip_tail_map {α β : Type} (f : α → β) (l : List α) :
    (l.map f).zip (l.map f).tail = (l.zip l.tail).map (Prod.map f f) := by
  rw [← List.map_tail, List.zip_map]

theorem keptSamples_bounds {model : Sensor.Model} {mode : ReturnMode} {buf : ByteArray}
    {x : Nat × Nat} (hx : x ∈ keptSamples model.spec mode buf) : x.1 < 12 ∧ x.2 < 32 :=
  ((mem_keptSamples model mode buf x.1 x.2).1 hx).imp id And.left

section Rows

variable {d : Decoder} {buf : ByteArray} {p : Packet} {pts : List Point}
  (hp : parse d.spec buf = .ok p) (h : d.decode buf = .ok pts)
include hp h

theorem rows_azimuth_mem : ∀ r ∈ pts, 0.0 ≤ r.azimuth ∧ r.azimuth < 360.0 := by
  rw [decode_eq_map_keptSamples hp h]
  simp only [Decoder.spec]
  intro r hr
  obtain ⟨x, hx, rfl⟩ := List.mem_map.1 hr
  obtain ⟨hb, hs⟩ := keptSamples_bounds hx
  obtain ⟨hf, hv⟩ := azimuthOf_eq (parse_bounds hp).1 hb hs
  -- every azimuth is a remainder by a turn
  have hm := turnRem_mem (degrees (p.blocks.getD x.1 default).azimuth
    (toRat (Firing.slotFraction d.spec x.2))
    (groupStep d.spec p (x.1 / ReturnMode.blocksPerGroup d.spec p.footer.returnMode)))
  rw [point_azimuth, le_iff zero_lit.1 hf, lt_iff hf turn_lit.1, zero_lit.2, turn_lit.2, hv]
  exact hm

theorem rows_timestamps_ordered : pts.Pairwise fun r r' => r.timestamp ≤ r'.timestamp := by
  have ht := Firing.tableOrder d.model
  have hts := (parse_bounds hp).2
  -- slot starts never decrease along the emission order
  have hstart : SlotOrdered (groupCount d.spec p.footer.returnMode) fun g s =>
      toRat (Firing.groupStart d.spec g + Firing.slotOffset d.spec s) := by
    have hG : groupCount d.spec p.footer.returnMode ≤ 12 := Nat.div_le_self _ _
    exact ⟨fun g hg s hs => ht.slotStart_le (by omega) (Nat.le_succ s) (by omega),
      fun g hg => ht.slotStart_gap (by omega)⟩
  rw [decode_eq_map_keptSamples hp h, List.pairwise_map]
  simp only [Decoder.spec]
  refine (hstart.pairwise_emissionOrder.sublist List.filter_sublist).imp_of_mem
    fun hx hy hxy => ?_
  obtain ⟨hxf, hxv⟩ := timestamp_eq d.model d.calibration d.byteCast hts
    (keptSamples_bounds hx).1 (keptSamples_bounds hx).2
  obtain ⟨hyf, hyv⟩ := timestamp_eq d.model d.calibration d.byteCast hts
    (keptSamples_bounds hy).1 (keptSamples_bounds hy).2
  rw [le_iff hxf hyf, hxv, hyv]
  simp only [Decoder.spec] at hxy
  exact round64_mono (by linarith)

theorem rows_wrap_once (hw : Sweep d.spec p) :
    (pts.zip pts.tail).countP (fun q => decide (q.2.azimuth < q.1.azimuth)) ≤ 1 := by
  set P := ReturnMode.blocksPerGroup d.spec p.footer.returnMode
  set kept := keptSamples d.spec p.footer.returnMode buf
  set row := fun x : Nat × Nat =>
    point d.spec d.calibration d.byteCast p (groupDeltas d.spec p) (sampleAt d.spec p x.1 x.2)
  set w := fun x : Nat × Nat => sweepAngle d.spec p (x.1 / P) x.2 with hw_def
  have hsub : kept.Sublist (emissionOrder d.spec p.footer.returnMode) := List.filter_sublist
  -- the row azimuths are the unwrapped angles reduced by a turn
  have hangle : ∀ x ∈ kept, (row x).azimuth.isFinite = true ∧
      toRat (row x).azimuth = turnRem (w x) := by
    intro x hx
    obtain ⟨hf, hv⟩ : (row x).azimuth.isFinite = true ∧ toRat (row x).azimuth = _ :=
      azimuthOf_eq (parse_bounds hp).1 (keptSamples_bounds hx).1 (keptSamples_bounds hx).2
    rw [hw.shared x.1 (keptSamples_bounds hx).1] at hv
    exact ⟨hf, by rw [hv, hw_def, turnRem_sweepAngle]; rfl⟩
  have hsorted : kept.Pairwise fun x y => w x ≤ w y :=
    (hw.slotOrdered.pairwise_emissionOrder).sublist hsub
  have hrange : ∀ x ∈ kept, 0 ≤ w x ∧ w x < 720 := fun x hx =>
    hw.sweepAngle_mem (mem_emissionOrder_group (hsub.subset hx)).1 (keptSamples_bounds hx).2
  have hcount : (kept.zip kept.tail).countP
      ((fun q : Point × Point => decide (q.2.azimuth < q.1.azimuth)) ∘ Prod.map row row) =
      (kept.zip kept.tail).countP fun q => decide (turnRem (w q.2) < turnRem (w q.1)) := by
    refine List.countP_congr fun q hq => ?_
    obtain ⟨hq1, hq2⟩ := List.of_mem_zip hq
    obtain ⟨hf1, hv1⟩ := hangle q.1 hq1
    obtain ⟨hf2, hv2⟩ := hangle q.2 (List.mem_of_mem_tail hq2)
    simp only [Function.comp_apply, Prod.map_fst, Prod.map_snd, decide_eq_true_eq]
    rw [lt_iff hf2 hf1, hv1, hv2]
  have hpts : pts = kept.map row := decode_eq_map_keptSamples hp h
  rw [hpts, zip_tail_map, List.countP_map, hcount]
  exact (descents_le_one w hsorted hrange).1

end Rows

/-- The rows of a decoded packet: every azimuth lies in `[0, 360)` degrees, the timestamps never
decrease in emission order, and, for a packet that sweeps less than a turn, the azimuths step
down at most once in emission order. -/
theorem decode_azimuths_wrap_once_times_ordered (d : Decoder) (buf : ByteArray) (p : Packet)
    (pts : List Point) (hp : parse d.spec buf = .ok p) (h : d.decode buf = .ok pts) :
    (∀ r ∈ pts, 0.0 ≤ r.azimuth ∧ r.azimuth < 360.0) ∧
      pts.Pairwise (fun r r' => r.timestamp ≤ r'.timestamp) ∧
      (Sweep d.spec p →
        (pts.zip pts.tail).countP (fun q => decide (q.2.azimuth < q.1.azimuth)) ≤ 1) :=
  ⟨rows_azimuth_mem hp h, rows_timestamps_ordered hp h, rows_wrap_once hp h⟩

theorem mixedBytes_azimuths_wrap_once_times_ordered :
    parse Sensor.Model.hdl64e.spec mixedBytes = .ok mixedPacket ∧
      (Decoder.flatDecoder .hdl64e).decode mixedBytes = .ok mixedRows ∧
      Sweep Sensor.Model.hdl64e.spec mixedPacket ∧
      (∀ r ∈ mixedRows, 0.0 ≤ r.azimuth ∧ r.azimuth < 360.0) ∧
      mixedRows.Pairwise (fun r r' => r.timestamp ≤ r'.timestamp) ∧
      (mixedRows.zip mixedRows.tail).countP (fun q => decide (q.2.azimuth < q.1.azimuth)) ≤ 1 := by
  have hsweep : Sweep Sensor.Model.hdl64e.spec mixedPacket :=
    ⟨by decide +kernel, by decide +kernel, by decide +kernel⟩
  have h := decode_azimuths_wrap_once_times_ordered (Decoder.flatDecoder .hdl64e) mixedBytes _ _
    parse_mixedBytes decode_mixedBytes
  exact ⟨parse_mixedBytes, decode_mixedBytes, hsweep, h.1, h.2.1, h.2.2 hsweep⟩

end SpinLidar.Synthesis
