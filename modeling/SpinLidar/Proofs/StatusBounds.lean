import SpinLidar.Proofs.StatusRecovery
namespace SpinLidar.Status.Accumulator

def WithinStage (a : Accumulator) : Prop :=
  match a.stage with
  | .lasers => a.laser < 64 ∧ a.part ≤ 3 ∧ (a.part = 3 → a.laser < 63)
  | .sensorState => a.part ≤ 2
  | .unit | .calibrationDatetime => True

/-- The counters of a state in their ranges. -/
structure Bounded (a : Accumulator) : Prop where
  cyclePos : a.cyclePos < 16
  stage : WithinStage a

/-- Every index the next pair can use lies in its buffer. -/
structure InBounds (a : Accumulator) : Prop where
  header : a.cyclePos < 9 → a.cyclePos < a.header.size
  payload : 9 ≤ a.cyclePos → a.cyclePos - 9 < a.cycleIds.size ∧ a.cyclePos - 9 < a.cycleValues.size
  row : a.stage = .lasers → a.part < 3 →
    ∃ r, a.laserBytes[a.laser]? = some r ∧ 7 * a.part + 7 ≤ r.size
  stateIds : a.stage = .sensorState → a.part < Ids.sensorState.length
  stateBytes : a.stage = .sensorState → 7 * a.part + 7 ≤ a.stateBytes.size

theorem withinStage_restart (a : Accumulator) : WithinStage a.restart := trivial

theorem withinStage_readHeader {a : Accumulator} (h : WithinStage a) :
    WithinStage a.readHeader.state := by
  obtain ⟨r, hr⟩ := updateHeader_fst a
  unfold readHeader
  split
  all_goals
    rename_i heq
    rw [heq] at hr
    subst hr
  · exact h
  · trivial

/-- A payload cycle moves the counters on within their ranges. The part before the warning
cycle is reached only below the last laser, so the warning cycle's next laser is one of the
64. -/
theorem withinStage_consumeCycle {a : Accumulator} (h : WithinStage a) (ids values : List Nat) :
    WithinStage (a.consumeCycle ids values).1 := by
  rcases a with ⟨report, init, header, cids, cvals, pos, stage, laser, part, lb, sb, recs⟩
  unfold consumeCycle
  cases stage with
  | unit => split_ifs <;> simp [WithinStage]
  | lasers =>
    obtain ⟨hl, hp, hw⟩ := h
    dsimp only at hl hp hw ⊢
    split_ifs with hpart hout hlast hwarn
    · exact ⟨hl, hp, hw⟩
    · trivial
    · -- a record part other than the last laser's third
      simp only [Bool.and_eq_true, not_and, partsPerLaser, laserCount] at hlast hpart
      show laser < 64 ∧ part + 1 ≤ 3 ∧ (part + 1 = 3 → laser < 63)
      refine ⟨hl, by omega, fun h3 => Nat.lt_of_le_of_ne (by omega) fun h63 => ?_⟩
      exact hlast (decide_eq_true (by omega)) (decide_eq_true (by omega))
    · exact ⟨hl, hp, hw⟩
    · -- the warning cycle comes after the third part, so below the last laser
      simp only [partsPerLaser] at hpart
      have h3 : part = 3 := by omega
      show laser + 1 < 64 ∧ 0 ≤ 3 ∧ (0 = 3 → laser + 1 < 63)
      exact ⟨by have := hw h3; omega, by omega, by omega⟩
  | calibrationDatetime =>
    simp only
    split_ifs
    · trivial
    · split <;> simp [WithinStage]
  | sensorState =>
    simp only
    split_ifs with hmatch hearly
    · exact h
    · show part + 1 ≤ 2
      simp [Ids.sensorState] at hearly
      omega
    · split
      · exact h
      · exact withinStage_restart _

theorem withinStage_endCycle {a : Accumulator} (h : WithinStage a) :
    WithinStage a.endCycle.state := by
  have hc := withinStage_consumeCycle h a.cycleIds.toList a.cycleValues.toList
  unfold endCycle
  split
  all_goals
    rename_i heq
    rw [heq] at hc
  · exact hc
  all_goals exact withinStage_restart _

theorem Bounded.step {a : Accumulator} (h : Bounded a) (id value : Nat) :
    Bounded (a.step id value).state := by
  rcases step_cases a id value with ⟨-, hs⟩ | ⟨-, hpos, hs⟩ | ⟨-, hpos, hs⟩ | ⟨-, hpos, hpos', hs⟩ |
    ⟨-, -, hs⟩ <;> rw [hs]
  · exact ⟨by show 0 < 16; decide, h.stage⟩
  · exact ⟨by show a.cyclePos + 1 < 16; omega, h.stage⟩
  · exact ⟨by rw [(readHeader_progress _).2.2]; decide, withinStage_readHeader h.stage⟩
  · exact ⟨by show a.cyclePos + 1 < 16; omega, h.stage⟩
  · exact ⟨by rw [endCycle_cyclePos]; show 0 < 16; decide, withinStage_endCycle h.stage⟩

theorem bounded_initial : Bounded initial := ⟨by decide, trivial⟩

theorem Bounded.run {a : Accumulator} (h : Bounded a) (ps : List (Nat × Nat)) :
    Bounded (a.run ps) := by
  induction ps generalizing a with
  | nil => exact h
  | cons p ps ih => exact ih (h.step p.1 p.2)

theorem Bounded.inBounds {a : Accumulator} (h : Bounded a) (hs : Shaped a) : InBounds a where
  header hpos := by rw [hs.header]; exact hpos
  payload _ := by rw [hs.cycleIds, hs.cycleValues]; have := h.cyclePos; omega
  row hst hp := by
    have hw : WithinStage a := h.stage
    simp only [WithinStage, hst] at hw
    have hl : a.laser < a.laserBytes.size := by rw [hs.lasers]; exact hw.1
    refine ⟨a.laserBytes[a.laser], Array.getElem?_eq_getElem hl, ?_⟩
    rw [hs.rows a.laser _ (Array.getElem?_eq_getElem hl)]
    omega
  stateIds hst := by
    have hw : WithinStage a := h.stage
    simp only [WithinStage, hst] at hw
    simp only [Ids.sensorState, List.length_cons, List.length_nil]
    omega
  stateBytes hst := by
    have hw : WithinStage a := h.stage
    simp only [WithinStage, hst] at hw
    rw [hs.state]
    omega

/-- Feeding a fresh accumulator bytes never fails, and the state it reaches has its counters in
their ranges and indexes within its buffers. Every status error is caught on the way. -/
theorem fed_bytes_stay_in_bounds (ps : List (Nat × Nat)) (hps : ∀ p ∈ ps, p.1 < 256 ∧ p.2 < 256) :
    (initial.feedAll (wire ps)).2 = none ∧ Bounded (initial.feedAll (wire ps)).1.state ∧
      InBounds (initial.feedAll (wire ps)).1.state := by
  obtain ⟨hnone, hrun⟩ := feedAll_bytes initial ps hps
  have hb := bounded_initial.run ps
  rw [hrun]
  exact ⟨hnone, hb, hb.inBounds (shaped_initial.run ps)⟩

theorem standard_stays_in_bounds :
    (∀ p ∈ Sequence.standard.pairs, p.1 < 256 ∧ p.2 < 256) ∧
      (initial.feedAll (wire Sequence.standard.pairs)).2 = none ∧
      Bounded (initial.feedAll (wire Sequence.standard.pairs)).1.state ∧
      InBounds (initial.feedAll (wire Sequence.standard.pairs)).1.state :=
  ⟨Sequence.standard.pairs_bytes,
    fed_bytes_stay_in_bounds _ Sequence.standard.pairs_bytes⟩

end SpinLidar.Status.Accumulator
