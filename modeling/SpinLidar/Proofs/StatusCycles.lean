import SpinLidar.Proofs.StatusSteps
import Mathlib.Tactic.SplitIfs
namespace SpinLidar.Status

def Report.withWarning (r : Report) (w : Nat) : Report :=
  { r with lensContamination := w.testBit 0, hot := w.testBit 1, cold := w.testBit 2,
           pps := w.testBit 5, gpsTime := w.testBit 6 }

namespace Accumulator

section EndCycle

variable {a : Accumulator} {values : List Nat}

theorem endCycle_unit (hst : a.stage = .unit) (hids : a.cycleIds = Ids.unit.toArray)
    {upper lower : Nat} (hv : a.cycleValues = (Ids.unitText ++ [upper, lower]).toArray) :
    a.endCycle.state =
      { a with report := { a.report with upperThreshold := upper, lowerThreshold := lower },
               stage := .lasers, laser := 0, part := 0 } := by
  simp [endCycle, consumeCycle, hst, hids, hv, Ids.unitText]

theorem endCycle_record (hst : a.stage = .lasers) (hp : a.part < 3)
    (hids : a.cycleIds = Ids.standard.toArray) (hv : a.cycleValues = values.toArray)
    (hfirst : a.part = 0 → values.getD 0 0 = a.laser) (hmore : ¬(a.laser = 63 ∧ a.part = 2)) :
    a.endCycle.state =
      { a with laserBytes := a.laserBytes.modify a.laser fun r => writePart r a.part values,
               part := a.part + 1 } := by
  rcases a with ⟨report, init, header, ids, vals, pos, stage, laser, part, lb, sb, recs⟩
  simp only at hst hp hids hv hfirst hmore
  subst hst hids hv
  unfold endCycle consumeCycle
  simp only
  -- the cycle is in order and not the last of the lasers, so only the last branch is taken
  split_ifs with h1 h2 h3
  · simp only [ne_eq, not_true_eq_false, decide_false, Bool.false_or, Bool.and_eq_true,
      decide_eq_true_eq] at h2
    exact absurd (hfirst h2.1) h2.2
  · simp only [Bool.and_eq_true] at h3
    exact absurd ⟨of_decide_eq_true h3.1, of_decide_eq_true h3.2⟩ hmore
  · rfl
  all_goals exact absurd hp h1

theorem endCycle_record_last (hst : a.stage = .lasers) (hl : a.laser = 63) (hp : a.part = 2)
    (hids : a.cycleIds = Ids.standard.toArray) (hv : a.cycleValues = values.toArray) :
    a.endCycle.state =
      { a with laserBytes := a.laserBytes.modify 63 fun r => writePart r 2 values,
               stage := .calibrationDatetime } := by
  simp [endCycle, consumeCycle, hst, hids, hv, partsPerLaser, laserCount, hp, hl]

theorem endCycle_warning (hst : a.stage = .lasers) (hp : a.part = 3)
    (hids : a.cycleIds = Ids.warning.toArray) (hv : a.cycleValues = values.toArray) :
    a.endCycle.state =
      { a with report := a.report.withWarning (values.getD 0 0), laser := a.laser + 1,
               part := 0 } := by
  simp [endCycle, consumeCycle, hst, hids, hv, partsPerLaser, hp, Report.withWarning,
    Nat.testBit_eq_decide_div_mod_eq]

theorem endCycle_calibration (hst : a.stage = .calibrationDatetime)
    (hids : a.cycleIds = Ids.standard.toArray) (hv : a.cycleValues = values.toArray) {dt : Int}
    (hdt : statusDatetime (values.getD 0 0) (values.getD 1 0) (values.getD 2 0) (values.getD 3 0)
      (values.getD 4 0) (values.getD 5 0) = .ok dt) :
    a.endCycle.state =
      { a with report := { a.report with calibrationDatetime := some dt,
                                         humidity := values.getD 6 0 },
               stage := .sensorState, part := 0 } := by
  simp only [List.getD_eq_getElem?_getD] at hdt
  simp [endCycle, consumeCycle, hst, hids, hv, hdt]

theorem endCycle_state (hst : a.stage = .sensorState) (hp : a.part < 2)
    (hids : a.cycleIds = (Ids.sensorState.getD a.part []).toArray)
    (hv : a.cycleValues = values.toArray) :
    a.endCycle.state =
      { a with stateBytes := writePart a.stateBytes a.part values, part := a.part + 1 } := by
  obtain h | h : a.part = 0 ∨ a.part = 1 := by omega
  all_goals simp [endCycle, consumeCycle, hst, hids, hv, h, Ids.sensorState]

theorem endCycle_state_last (hst : a.stage = .sensorState) (hp : a.part = 2)
    (hids : a.cycleIds = (Ids.sensorState.getD 2 []).toArray) (hv : a.cycleValues = values.toArray)
    {b : Accumulator}
    (hb : completeSequence { a with stateBytes := writePart a.stateBytes 2 values } = .ok b) :
    a.endCycle.state = b.restart := by
  rcases a with ⟨report, init, header, ids, vals, pos, stage, laser, part, lb, sb, recs⟩
  simp only at hst hp hids hv hb
  subst hst hp hids hv
  simp only [Ids.sensorState, List.getD_cons_succ, List.getD_cons_zero] at hb
  simp [endCycle, consumeCycle, Ids.sensorState, hb]

theorem sensorState_eq_last {p : Nat} (h : Ids.sensorState[p]? = some (Ids.sensorState.getD 2 [])) :
    p = 2 := by
  match p, h with
  | 0, h => simp [Ids.sensorState, Ids.standard] at h
  | 1, h => simp [Ids.sensorState, Ids.standard] at h
  | 2, _ => rfl
  | n + 3, h => simp [Ids.sensorState] at h

theorem endCycle_lastState (hids : a.cycleIds = (Ids.sensorState.getD 2 []).toArray) :
    a.endCycle.state.stage = .unit ∧ a.endCycle.state.laser = 0 ∧ a.endCycle.state.part = 0 := by
  rcases a with ⟨report, init, header, ids, vals, pos, stage, laser, part, lb, sb, recs⟩
  simp only at hids
  subst hids
  cases stage with
  | unit | lasers | calibrationDatetime =>
    simp [endCycle, consumeCycle, restart, Ids.sensorState, Ids.unit, Ids.standard, Ids.warning]
  | sensorState =>
    unfold endCycle consumeCycle
    simp only
    split_ifs with hmatch hearly
    · exact ⟨rfl, rfl, rfl⟩
    · have h2 := sensorState_eq_last (Classical.not_not.1 hmatch).symm
      simp [Ids.sensorState, h2] at hearly
    · -- completed or not, the sequence is restarted
      split
      · next b heq =>
        split at heq
        · simp at heq
        · obtain ⟨rfl, -⟩ := Prod.mk.inj heq
          exact ⟨rfl, rfl, rfl⟩
      · exact ⟨rfl, rfl, rfl⟩
      · exact ⟨rfl, rfl, rfl⟩

end EndCycle

def stageIndex (a : Accumulator) : Nat :=
  match a.stage with
  | .unit => 0
  | .lasers => 1 + 4 * a.laser + a.part
  | .calibrationDatetime => 256
  | .sensorState => 257 + a.part

def progress (a : Accumulator) : Nat := 16 * a.stageIndex + a.cyclePos

theorem sensorState_lt {p : Nat} {ids : List Nat} (h : ¬(some ids ≠ Ids.sensorState[p]?)) : p < 3 := by
  rcases Nat.lt_or_ge p 3 with hp | hp
  · exact hp
  · rw [List.getElem?_eq_none (by simp [Ids.sensorState]; omega)] at h
    simp at h

theorem consumeCycle_progress (a : Accumulator) (ids values : List Nat) :
    (a.consumeCycle ids values).1.stageIndex ≤ a.stageIndex + 1 ∧
      ((a.consumeCycle ids values).1.initialized = true →
        a.initialized = true ∨ a.stageIndex = 259) := by
  rcases a with ⟨report, init, header, cids, cvals, pos, stage, laser, part, lb, sb, recs⟩
  unfold consumeCycle
  -- every branch but the completing one keeps the initialized flag
  cases stage with
  | unit => split_ifs <;> exact ⟨by simp [stageIndex], Or.inl⟩
  | lasers =>
    simp only
    split_ifs with hpart hout hlast hwarn
    · exact ⟨by simp [stageIndex], Or.inl⟩
    · -- the last record moves on to the calibration date
      simp only [Bool.and_eq_true] at hlast
      have hl : laser = 63 := of_decide_eq_true hlast.1
      have hp : part = 2 := of_decide_eq_true hlast.2
      exact ⟨by simp [stageIndex, hl, hp], Or.inl⟩
    · exact ⟨by simp [stageIndex]; omega, Or.inl⟩
    · exact ⟨by simp [stageIndex], Or.inl⟩
    · -- a warning moves on to the next laser from the part after the records, or later
      have : 3 ≤ part := Nat.le_of_not_lt hpart
      exact ⟨by simp [stageIndex]; omega, Or.inl⟩
  | calibrationDatetime =>
    simp only
    split_ifs
    · exact ⟨by simp [stageIndex], Or.inl⟩
    · split <;> exact ⟨by simp [stageIndex], Or.inl⟩
  | sensorState =>
    simp only
    split_ifs with hmatch hearly
    · exact ⟨by simp [stageIndex], Or.inl⟩
    · exact ⟨by simp [stageIndex]; omega, Or.inl⟩
    · -- the completing branch: the part is the last one
      have hp : part = 2 := by
        have := sensorState_lt hmatch
        simp [Ids.sensorState] at hearly
        omega
      split
      · exact ⟨by simp [stageIndex], Or.inl⟩
      · next c hc =>
        obtain ⟨r, rfl⟩ := completeSequence_ok hc
        simp [stageIndex, restart, hp]

theorem endCycle_progress (a : Accumulator) :
    a.endCycle.state.stageIndex ≤ a.stageIndex + 1 ∧
      (a.endCycle.state.initialized = true → a.initialized = true ∨ a.stageIndex = 259) := by
  have hc := consumeCycle_progress a a.cycleIds.toList a.cycleValues.toList
  unfold endCycle
  split
  all_goals
    rename_i heq
    rw [heq] at hc
  · exact hc
  all_goals exact ⟨by simp [stageIndex, restart], hc.2⟩

theorem readHeader_progress (a : Accumulator) :
    a.readHeader.state.stageIndex ≤ a.stageIndex ∧
      a.readHeader.state.initialized = a.initialized ∧ a.readHeader.state.cyclePos = 9 := by
  obtain ⟨r, hr⟩ := updateHeader_fst a
  unfold readHeader
  split
  all_goals
    rename_i heq
    rw [heq] at hr
    subst hr
  · exact ⟨by simp [stageIndex], rfl, rfl⟩
  · exact ⟨by simp [stageIndex, restart], rfl, rfl⟩

theorem accepts_pos {a : Accumulator} {id : Nat} (h : a.accepts id = true) : a.cyclePos < 16 := by
  unfold accepts at h
  split at h
  · next k hk =>
    obtain ⟨hk9, -⟩ := List.idxOf?_eq_some_iff.1 hk
    simp only [Ids.header, List.length_cons, List.length_nil, decide_eq_true_eq] at hk9 h
    omega
  · simp only [Bool.and_eq_true] at h
    exact of_decide_eq_true h.2

/-- The five things a step does, with what it leaves and logs: a pair out of place restarts the
cycle, a header value is stored, the last header value is stored and the header read, a payload
pair is stored, and the last payload pair is stored and ends the cycle. -/
theorem step_cases (a : Accumulator) (id value : Nat) :
    (a.accepts id = false ∧ a.step id value =
      ⟨{ a with cyclePos := 0 }, a.resetWarning "Wrong status cycle position detected, resetting"⟩) ∨
    (a.accepts id = true ∧ a.cyclePos < 8 ∧ a.step id value =
      ⟨{ a with header := a.header.setIfInBounds a.cyclePos value, cyclePos := a.cyclePos + 1 }, []⟩) ∨
    (a.accepts id = true ∧ a.cyclePos = 8 ∧
      a.step id value = ({ a with header := a.header.setIfInBounds 8 value }).readHeader) ∨
    (a.accepts id = true ∧ 9 ≤ a.cyclePos ∧ a.cyclePos < 15 ∧ a.step id value =
      ⟨{ a with cycleIds := a.cycleIds.setIfInBounds (a.cyclePos - 9) id,
                cycleValues := a.cycleValues.setIfInBounds (a.cyclePos - 9) value,
                cyclePos := a.cyclePos + 1 }, []⟩) ∨
    (a.accepts id = true ∧ a.cyclePos = 15 ∧ a.step id value =
      ({ a with cycleIds := a.cycleIds.setIfInBounds 6 id,
                cycleValues := a.cycleValues.setIfInBounds 6 value, cyclePos := 0 }).endCycle) := by
  cases hacc : a.accepts id with
  | false => exact .inl ⟨rfl, by simp [step, hacc]⟩
  | true =>
    have h16 := accepts_pos hacc
    obtain hpos | hpos | hpos | hpos : a.cyclePos < 8 ∨ a.cyclePos = 8 ∨
        (9 ≤ a.cyclePos ∧ a.cyclePos < 15) ∨ a.cyclePos = 15 := by omega
    · have h9 : a.cyclePos < headerLength := by simp [headerLength]; omega
      have h8 : a.cyclePos ≠ headerLength - 1 := by simp [headerLength]; omega
      exact .inr (.inl ⟨rfl, hpos, by simp [step, hacc, h9, h8]⟩)
    · exact .inr (.inr (.inl ⟨rfl, hpos, by simp [step, hacc, hpos, headerLength]⟩))
    · have h9 : ¬a.cyclePos < 9 := by omega
      exact .inr (.inr (.inr (.inl ⟨rfl, hpos.1, hpos.2,
        by simp [step, hacc, h9, hpos.2, headerLength, cycleLength]⟩)))
    · exact .inr (.inr (.inr (.inr ⟨rfl, hpos, by simp [step, hacc, hpos, headerLength, cycleLength]⟩)))

theorem step_progress (a : Accumulator) (id value : Nat) :
    (a.step id value).state.progress ≤ a.progress + 1 ∧
      ((a.step id value).state.initialized = true → a.initialized = true ∨ a.progress = 4159) := by
  rcases step_cases a id value with ⟨-, hs⟩ | ⟨-, -, hs⟩ | ⟨-, hpos, hs⟩ | ⟨-, -, -, hs⟩ |
    ⟨-, hpos, hs⟩ <;> rw [hs]
  · exact ⟨by show 16 * a.stageIndex + 0 ≤ 16 * a.stageIndex + a.cyclePos + 1; omega, Or.inl⟩
  · exact ⟨by simp [progress, stageIndex]; omega, Or.inl⟩
  · obtain ⟨hidx, hinit, h9⟩ := readHeader_progress { a with header := a.header.setIfInBounds 8 value }
    refine ⟨?_, fun h => Or.inl (hinit ▸ h)⟩
    simp only [progress, h9]
    simp only [stageIndex] at hidx ⊢
    omega
  · exact ⟨by simp [progress, stageIndex]; omega, Or.inl⟩
  · generalize hb : { a with cycleIds := a.cycleIds.setIfInBounds 6 id,
                             cycleValues := a.cycleValues.setIfInBounds 6 value,
                             cyclePos := 0 } = b
    have hidx : b.stageIndex = a.stageIndex := by rw [← hb]; rfl
    have hpos0 : b.cyclePos = 0 := by rw [← hb]
    obtain ⟨hle, hinit⟩ := endCycle_progress b
    refine ⟨?_, fun h => ?_⟩
    · simp only [progress, endCycle_cyclePos, hpos0]
      omega
    · rcases hinit h with h' | h'
      · left
        rw [← hb] at h'
        exact h'
      · right
        simp only [progress]
        omega

theorem run_progress (a : Accumulator) (ps : List (Nat × Nat)) (h : a.initialized = false)
    (hrun : (a.run ps).initialized = true) : 4160 ≤ a.progress + ps.length := by
  induction ps generalizing a with
  | nil => simp_all
  | cons p ps ih =>
    obtain ⟨hle, hinit⟩ := step_progress a p.1 p.2
    rw [run_cons] at hrun
    cases hb : (a.step p.1 p.2).state.initialized with
    | false =>
      have := ih _ hb hrun
      simp only [List.length_cons]
      omega
    | true =>
      rcases hinit hb with h' | h'
      · simp_all
      · simp only [List.length_cons]
        omega

theorem initialized_length (ps : List (Nat × Nat)) (h : (initial.run ps).initialized = true) :
    4160 ≤ ps.length := by
  have := run_progress initial ps rfl h
  simpa [progress, stageIndex, initial] using this

end Accumulator

end SpinLidar.Status
