import SpinLidar.Proofs.StatusCycles
namespace SpinLidar.Status.Accumulator

/-- What a completed sequence publishes: the laser records behind the calibration and the
sensor-state fields of the report (motor speed, field of view, lifetime, addresses, return and
power settings). -/
structure Published where
  records : Option (Array (Array Nat))
  rpm : Nat
  fovStart : Float
  fovEnd : Float
  realLifeTime : Nat
  ipSource : List Nat
  ipDest : List Nat
  returnKind : ReturnKind
  powerLevel : PowerLevel
  manualPower : Option Nat

def published (a : Accumulator) : Published :=
  ⟨a.records, a.report.rpm, a.report.fovStart, a.report.fovEnd, a.report.realLifeTime,
    a.report.ipSource, a.report.ipDest, a.report.returnKind, a.report.powerLevel,
    a.report.manualPower⟩

/-- A payload cycle closes the sequence: it is the last sensor-state cycle and arrives in its
place, and the sensor state it completes passes the return and power checks. -/
def Closes (a : Accumulator) (ids values : List Nat) : Prop :=
  a.stage = .sensorState ∧ a.part = 2 ∧ ids = Ids.sensorState.getD 2 [] ∧
    ∃ b, completeSequence { a with stateBytes := writePart a.stateBytes 2 values } = .ok b

def closing (a : Accumulator) (id value : Nat) : Accumulator :=
  { a with cycleIds := a.cycleIds.setIfInBounds 6 id,
           cycleValues := a.cycleValues.setIfInBounds 6 value, cyclePos := 0 }

def Completes (a : Accumulator) (id value : Nat) : Prop :=
  a.accepts id = true ∧ a.cyclePos = 15 ∧
    Closes (a.closing id value) (a.closing id value).cycleIds.toList
      (a.closing id value).cycleValues.toList

def Keeps (a b : Accumulator) : Prop := b.published = a.published ∧ (a.initialized → b.initialized)

theorem Keeps.refl (a : Accumulator) : Keeps a a := ⟨rfl, id⟩

theorem Keeps.trans {a b c : Accumulator} (hab : Keeps a b) (hbc : Keeps b c) : Keeps a c :=
  ⟨hbc.1.trans hab.1, hbc.2 ∘ hab.2⟩

theorem Keeps.calibration {a b : Accumulator} (h : Keeps a b) (r : Float) :
    b.calibration r = a.calibration r := by
  have hrec : b.records = a.records := congrArg Published.records h.1
  simp only [Accumulator.calibration, hrec]

theorem keeps_updateHeader (a : Accumulator) : Keeps a a.updateHeader.1 := by
  unfold updateHeader
  simp only
  -- a header writes the date and time, the GPS state, the temperature and the firmware
  split
  · exact Keeps.refl a
  · split <;> exact ⟨rfl, id⟩

theorem keeps_readHeader (a : Accumulator) : Keeps a a.readHeader.state := by
  have hu := keeps_updateHeader a
  unfold readHeader
  split
  all_goals
    rename_i heq
    rw [heq] at hu
    exact hu.trans ⟨rfl, id⟩

theorem keeps_consumeCycle {a : Accumulator} {ids values : List Nat} (h : ¬Closes a ids values) :
    Keeps a (a.consumeCycle ids values).1 := by
  rcases a with ⟨report, init, header, cids, cvals, pos, stage, laser, part, lb, sb, recs⟩
  unfold consumeCycle
  -- the thresholds, a laser row, the warning flags and the calibration date are not published
  cases stage with
  | unit => split_ifs <;> exact ⟨rfl, id⟩
  | lasers => simp only; split_ifs <;> exact ⟨rfl, id⟩
  | calibrationDatetime =>
    simp only
    split_ifs
    · exact ⟨rfl, id⟩
    · split <;> exact ⟨rfl, id⟩
  | sensorState =>
    simp only
    split_ifs with hmatch hearly
    · exact ⟨rfl, id⟩
    · exact ⟨rfl, id⟩
    · have hp : part = 2 := by
        have := sensorState_lt hmatch
        simp [Ids.sensorState] at hearly
        omega
      subst hp
      have hids : ids = Ids.sensorState.getD 2 [] := by
        simpa [Ids.sensorState] using hmatch
      split
      · exact ⟨rfl, id⟩
      · next b hb => exact absurd ⟨rfl, rfl, hids, b, hb⟩ h

theorem keeps_endCycle {a : Accumulator} (h : ¬Closes a a.cycleIds.toList a.cycleValues.toList) :
    Keeps a a.endCycle.state := by
  have hc := keeps_consumeCycle h
  unfold endCycle
  split
  all_goals
    rename_i heq
    rw [heq] at hc
  · exact hc
  all_goals exact hc.trans ⟨rfl, id⟩

theorem keeps_step {a : Accumulator} {id value : Nat} (h : ¬Completes a id value) :
    Keeps a (a.step id value).state := by
  rcases step_cases a id value with ⟨-, hs⟩ | ⟨-, -, hs⟩ | ⟨-, -, hs⟩ | ⟨-, -, -, hs⟩ |
    ⟨hacc, hpos, hs⟩ <;> rw [hs]
  · exact ⟨rfl, fun hi => hi⟩
  · exact ⟨rfl, fun hi => hi⟩
  · exact (show Keeps a { a with header := a.header.setIfInBounds 8 value } from
      ⟨rfl, fun hi => hi⟩).trans (keeps_readHeader _)
  · exact ⟨rfl, fun hi => hi⟩
  · exact (show Keeps a (a.closing id value) from ⟨rfl, fun hi => hi⟩).trans
      (keeps_endCycle fun hc => h ⟨hacc, hpos, hc⟩)

def Unfinished : Accumulator → List (Nat × Nat) → Prop
  | _, [] => True
  | a, p :: ps => ¬Completes a p.1 p.2 ∧ Unfinished (a.step p.1 p.2).state ps

theorem keeps_run {a : Accumulator} {ps : List (Nat × Nat)} (h : Unfinished a ps) :
    Keeps a (a.run ps) := by
  induction ps generalizing a with
  | nil => exact Keeps.refl a
  | cons p ps ih =>
    obtain ⟨hp, hps⟩ := h
    rw [run_cons]
    exact (keeps_step hp).trans (ih hps)

theorem step_completes {a : Accumulator} {id value : Nat} (h : Completes a id value) :
    (a.step id value).state.records = some a.laserBytes ∧
      (a.step id value).state.initialized = true := by
  obtain ⟨hacc, hpos, hst, hp, hids, c, hc⟩ := h
  have hids' : (a.closing id value).cycleIds = (Ids.sensorState.getD 2 []).toArray := by
    rw [← hids, Array.toArray_toList]
  have hv : (a.closing id value).cycleValues = (a.closing id value).cycleValues.toList.toArray :=
    (Array.toArray_toList).symm
  rw [step_payload_last hacc hpos]
  change (a.closing id value).endCycle.state.records = _ ∧
    (a.closing id value).endCycle.state.initialized = true
  rw [endCycle_state_last hst hp hids' hv hc]
  obtain ⟨r, rfl⟩ := completeSequence_ok hc
  exact ⟨rfl, rfl⟩

theorem feed_eq_ok {a : Accumulator} {id value : Int} {f : Fed} (h : a.feed id value = .ok f) :
    f = a.step id.toNat value.toNat := by
  unfold feed at h
  -- a refusal is no result, so neither check refused
  cases hid : (decide (id < 0) || decide (id > 255)) <;>
    cases hv : (a.accepts id.toNat && (decide (value < 0) || decide (value > 255))) <;>
    simp only [hid, hv] at h <;> cases h
  rfl

/-- A pair of status bytes changes what the accumulator publishes only when it completes a
sequence. A pair that does not leaves the calibration (for every distance unit, its refusal
before the first sequence included), the sensor-state fields of the report and an
initialized status as they were; a pair that does publishes the laser records gathered and
initializes the status. -/
theorem feed_publishes_only_on_completion (a : Accumulator) (id value : Int) (f : Fed)
    (h : a.feed id value = .ok f) :
    (¬Completes a id.toNat value.toNat →
      (∀ r, f.state.calibration r = a.calibration r) ∧ f.state.published = a.published ∧
        (a.initialized → f.state.initialized)) ∧
    (Completes a id.toNat value.toNat →
      f.state.records = some a.laserBytes ∧ f.state.initialized = true) := by
  rw [feed_eq_ok h]
  refine ⟨fun hnc => ?_, step_completes⟩
  have hk := keeps_step hnc
  exact ⟨hk.calibration, hk.1, hk.2⟩

theorem first_pair_publishes_nothing :
    initial.feed 72 12 = .ok (initial.step 72 12) ∧
      (¬Completes initial 72 12 →
        (∀ r, (initial.step 72 12).state.calibration r = initial.calibration r) ∧
          (initial.step 72 12).state.published = initial.published ∧
          (initial.initialized → (initial.step 72 12).state.initialized)) ∧
      (Completes initial 72 12 →
        (initial.step 72 12).state.records = some initial.laserBytes ∧
          (initial.step 72 12).state.initialized = true) :=
  ⟨rfl, feed_publishes_only_on_completion initial 72 12 _ rfl⟩

end SpinLidar.Status.Accumulator
