import SpinLidar.Proofs.StatusCycles
import SpinLidar.Status.Sequence
namespace SpinLidar.Status

open Accumulator

def Bytes (l : List Nat) : Prop := ∀ v ∈ l, v < 256

instance (l : List Nat) : Decidable (Bytes l) := inferInstanceAs (Decidable (∀ v ∈ l, v < 256))

def word (bytes : List Nat) (k : Nat) : Nat := bytes.getD k 0 + 256 * bytes.getD (k + 1) 0

/-- A valid status sequence: the header of every cycle, the noise thresholds of the unit cycle,
each laser's 21-byte record (its first byte the laser's index) and the payload of the warning
cycle after it, the calibration date cycle (a valid date and the humidity), and the 21 bytes of
the sensor state with a known return setting and power setting. -/
structure Sequence where
  header : Nat → Header
  upper : Nat
  lower : Nat
  record : Nat → List Nat
  warning : Nat → List Nat
  calibration : List Nat
  state : List Nat
  thresholds_bytes : upper < 256 ∧ lower < 256
  record_length : ∀ l < 64, (record l).length = 21
  record_bytes : ∀ l < 64, Bytes (record l)
  record_laser : ∀ l < 64, (record l).getD 0 0 = l
  warning_length : ∀ l < 63, (warning l).length = 7
  warning_bytes : ∀ l < 63, Bytes (warning l)
  calibration_length : calibration.length = 7
  calibration_bytes : Bytes calibration
  calibrationDatetime : Int
  calibration_eq : statusDatetime (calibration.getD 0 0) (calibration.getD 1 0)
    (calibration.getD 2 0) (calibration.getD 3 0) (calibration.getD 4 0) (calibration.getD 5 0) =
      .ok calibrationDatetime
  state_length : state.length = 21
  state_bytes : Bytes state
  returnKind : ReturnKind
  returnKind_eq : ReturnKind.ofCode? (state.getD 16 0) = some returnKind
  power : PowerLevel × Option Nat
  power_eq : powerLevel (state.getD 18 0) = .ok power

namespace Accumulator

/-- In the lasers stage, at the start of a cycle. -/
structure AtPart (laser part : Nat) (a : Accumulator) : Prop where
  shaped : Shaped a
  pos : a.cyclePos = 0
  stage : a.stage = .lasers
  laser : a.laser = laser
  part : a.part = part

section Kinds

variable {a : Accumulator} (h : Header) {values : List Nat}

theorem run_unitCycle (hst : a.stage = .unit) (hpos : a.cyclePos = 0) (hs : Shaped a)
    {upper lower : Nat} :
    a.run (cyclePairs h Ids.unit (Ids.unitText ++ [upper, lower])) =
      { a.loadCycle h Ids.unit (Ids.unitText ++ [upper, lower]) with
        report := { a.report.withHeader h with upperThreshold := upper, lowerThreshold := lower }
        stage := .lasers, laser := 0, part := 0 } := by
  rw [run_cycle a hpos hs h rfl rfl (by decide)]
  exact endCycle_unit (show (a.loadCycle h Ids.unit _).stage = .unit from hst) rfl rfl

theorem run_recordCycle {laser part : Nat} (ha : AtPart laser part a) (hv : values.length = 7)
    (hp : part < 3) (hfirst : part = 0 → values.getD 0 0 = laser)
    (hmore : ¬(laser = 63 ∧ part = 2)) :
    a.run (cyclePairs h Ids.standard values) =
      { a.loadCycle h Ids.standard values with
        laserBytes := a.laserBytes.modify laser fun r => writePart r part values
        part := part + 1 } := by
  obtain ⟨hs, hpos, hst, rfl, rfl⟩ := ha
  rw [run_cycle a hpos hs h rfl hv (by decide)]
  exact endCycle_record (show (a.loadCycle h Ids.standard values).stage = .lasers from hst) hp rfl
    rfl hfirst hmore

theorem run_recordCycle_last (ha : AtPart 63 2 a) (hv : values.length = 7) :
    a.run (cyclePairs h Ids.standard values) =
      { a.loadCycle h Ids.standard values with
        laserBytes := a.laserBytes.modify 63 fun r => writePart r 2 values
        stage := .calibrationDatetime } := by
  obtain ⟨hs, hpos, hst, hl, hp⟩ := ha
  rw [run_cycle a hpos hs h rfl hv (by decide)]
  exact endCycle_record_last (show (a.loadCycle h Ids.standard values).stage = .lasers from hst) hl
    hp rfl rfl

theorem run_warningCycle {laser : Nat} (ha : AtPart laser 3 a) (hv : values.length = 7) :
    a.run (cyclePairs h Ids.warning values) =
      { a.loadCycle h Ids.warning values with
        report := (a.report.withHeader h).withWarning (values.getD 0 0)
        laser := laser + 1, part := 0 } := by
  obtain ⟨hs, hpos, hst, rfl, hp⟩ := ha
  rw [run_cycle a hpos hs h rfl hv (by decide)]
  exact endCycle_warning (show (a.loadCycle h Ids.warning values).stage = .lasers from hst) hp rfl rfl

theorem run_calibrationCycle (hst : a.stage = .calibrationDatetime) (hpos : a.cyclePos = 0)
    (hs : Shaped a) (hv : values.length = 7) {dt : Int}
    (hdt : statusDatetime (values.getD 0 0) (values.getD 1 0) (values.getD 2 0) (values.getD 3 0)
      (values.getD 4 0) (values.getD 5 0) = .ok dt) :
    a.run (cyclePairs h Ids.standard values) =
      { a.loadCycle h Ids.standard values with
        report := { a.report.withHeader h with calibrationDatetime := some dt,
                                                humidity := values.getD 6 0 }
        stage := .sensorState, part := 0 } := by
  rw [run_cycle a hpos hs h rfl hv (by decide)]
  exact endCycle_calibration
    (show (a.loadCycle h Ids.standard values).stage = .calibrationDatetime from hst) rfl rfl hdt

theorem run_stateCycle {part : Nat} (hst : a.stage = .sensorState) (hpart : a.part = part)
    (hp : part < 2) (hpos : a.cyclePos = 0) (hs : Shaped a) (hv : values.length = 7) :
    a.run (cyclePairs h (Ids.sensorState.getD part []) values) =
      { a.loadCycle h (Ids.sensorState.getD part []) values with
        stateBytes := writePart a.stateBytes part values, part := part + 1 } := by
  subst hpart
  have hids : ∀ i ∈ Ids.sensorState.getD a.part [], Ids.header.idxOf? i = none := by
    obtain hp' | hp' : a.part = 0 ∨ a.part = 1 := by omega
    all_goals
      rw [hp']
      decide
  have hlen : (Ids.sensorState.getD a.part []).length = 7 := by
    obtain hp' | hp' : a.part = 0 ∨ a.part = 1 := by omega
    all_goals
      rw [hp']
      rfl
  rw [run_cycle a hpos hs h hlen hv hids]
  exact endCycle_state
    (show (a.loadCycle h (Ids.sensorState.getD a.part []) values).stage = .sensorState from hst) hp
    rfl rfl

theorem run_stateCycle_last (hst : a.stage = .sensorState) (hp : a.part = 2)
    (hpos : a.cyclePos = 0) (hs : Shaped a) (hv : values.length = 7) {b : Accumulator}
    (hb : completeSequence { a.loadCycle h (Ids.sensorState.getD 2 []) values with
      stateBytes := writePart a.stateBytes 2 values } = .ok b) :
    a.run (cyclePairs h (Ids.sensorState.getD 2 []) values) = b.restart := by
  rw [run_cycle a hpos hs h rfl hv (by decide)]
  exact endCycle_state_last
    (show (a.loadCycle h (Ids.sensorState.getD 2 []) values).stage = .sensorState from hst) hp rfl
    rfl hb

theorem AtPart.run_record {laser part : Nat} (ha : AtPart laser part a) (hv : values.length = 7)
    (hp : part < 3) (hfirst : part = 0 → values.getD 0 0 = laser)
    (hmore : ¬(laser = 63 ∧ part = 2)) :
    AtPart laser (part + 1) (a.run (cyclePairs h Ids.standard values)) := by
  have hs := ha.shaped.run (cyclePairs h Ids.standard values)
  rw [run_recordCycle h ha hv hp hfirst hmore] at hs ⊢
  exact ⟨hs, rfl, ha.stage, ha.laser, rfl⟩

theorem AtPart.run_warning {laser : Nat} (ha : AtPart laser 3 a) (hv : values.length = 7) :
    AtPart (laser + 1) 0 (a.run (cyclePairs h Ids.warning values)) := by
  have hs := ha.shaped.run (cyclePairs h Ids.warning values)
  rw [run_warningCycle h ha hv] at hs ⊢
  exact ⟨hs, rfl, ha.stage, rfl, rfl⟩

/-- A sequence whose sensor state holds a known return setting and power setting completes:
the state's words and addresses go to the report, and the laser records are kept. -/
theorem completeSequence_of_state {b : Accumulator} {st : List Nat} (hb : b.stateBytes = st.toArray)
    (hl : st.length = 21) {kind : ReturnKind} (hk : ReturnKind.ofCode? (st.getD 16 0) = some kind)
    {pw : PowerLevel × Option Nat} (hpw : powerLevel (st.getD 18 0) = .ok pw) :
    b.completeSequence = .ok
      { b with report := { b.report with rpm := word st 0,
                                         fovStart := Float.ofNat (word st 2) * 0.01,
                                         fovEnd := Float.ofNat (word st 4) * 0.01,
                                         realLifeTime := word st 6,
                                         ipSource := (st.drop 8).take 4,
                                         ipDest := (st.drop 12).take 4,
                                         returnKind := kind, powerLevel := pw.1,
                                         manualPower := pw.2 },
               records := some b.laserBytes, initialized := true } := by
  rcases b with ⟨report, init, header, ids, vals, pos, stage, laser, part, lb, sb, recs⟩
  simp only at hb
  subst hb
  -- with the 21 bytes written out, every field computes
  match st, hl with
  | [x0, x1, x2, x3, x4, x5, x6, x7, x8, x9, x10, x11, x12, x13, x14, x15, x16, x17, x18, x19,
      x20], _ =>
    simp only [List.getD_cons_succ, List.getD_cons_zero] at hk hpw
    have hr : List.range 4 = [0, 1, 2, 3] := rfl
    simp [completeSequence, hk, hpw, word, u16, bind, Except.bind, pure, Except.pure, hr]

end Kinds

end Accumulator

namespace Sequence

variable (s : Sequence)

def payload (k : Nat) : List Nat × List Nat :=
  if k = 0 then (Ids.unit, Ids.unitText ++ [s.upper, s.lower])
  else if k < 256 then
    if (k - 1) % 4 < 3 then (Ids.standard, chunk (s.record ((k - 1) / 4)) ((k - 1) % 4))
    else (Ids.warning, s.warning ((k - 1) / 4))
  else if k = 256 then (Ids.standard, s.calibration)
  else (Ids.sensorState.getD (k - 257) [], chunk s.state (k - 257))

def cycle (k : Nat) : List (Nat × Nat) := cyclePairs (s.header k) (s.payload k).1 (s.payload k).2

def pairs : List (Nat × Nat) := (List.range 260).flatMap s.cycle

theorem payload_unit : s.payload 0 = (Ids.unit, Ids.unitText ++ [s.upper, s.lower]) := rfl

theorem payload_record {l p : Nat} (hl : l < 64) (hp : p < 3) :
    s.payload (4 * l + p + 1) = (Ids.standard, chunk (s.record l) p) := by
  have hmod : (4 * l + p + 1 - 1) % 4 = p := by omega
  have hdiv : (4 * l + p + 1 - 1) / 4 = l := by omega
  rw [payload, if_neg (by omega), if_pos (by omega), hmod, hdiv, if_pos hp]

theorem payload_warning {l : Nat} (hl : l < 63) :
    s.payload (4 * l + 4) = (Ids.warning, s.warning l) := by
  have hmod : (4 * l + 4 - 1) % 4 = 3 := by omega
  have hdiv : (4 * l + 4 - 1) / 4 = l := by omega
  rw [payload, if_neg (by omega), if_pos (by omega), hmod, hdiv, if_neg (by omega)]

theorem payload_calibration : s.payload 256 = (Ids.standard, s.calibration) := rfl

theorem payload_state {p : Nat} (hp : p < 3) :
    s.payload (257 + p) = (Ids.sensorState.getD p [], chunk s.state p) := by
  rw [payload, if_neg (by omega), if_neg (by omega), if_neg (by omega), Nat.add_sub_cancel_left]

/-- What a payload needs to be read as a whole cycle and fed as bytes: seven ids, none a
header id, and seven values. -/
structure PayloadOk (ids values : List Nat) : Prop where
  ids_length : ids.length = 7
  values_length : values.length = 7
  not_header : ∀ i ∈ ids, Ids.header.idxOf? i = none
  ids_bytes : Bytes ids
  values_bytes : Bytes values

theorem chunk_bytes {r : List Nat} (h : Bytes r) (p : Nat) : Bytes (chunk r p) :=
  fun v hv => h v (List.mem_of_mem_drop (List.mem_of_mem_take hv))

def payloadIds : List (List Nat) := [Ids.unit, Ids.standard, Ids.warning] ++ Ids.sensorState

theorem payloadOk_of {ids values : List Nat} (hids : ids ∈ payloadIds) (hl : values.length = 7)
    (hb : Bytes values) : PayloadOk ids values := by
  have hall : ∀ ids ∈ payloadIds,
      ids.length = 7 ∧ (∀ i ∈ ids, Ids.header.idxOf? i = none) ∧ Bytes ids := by decide
  obtain ⟨h1, h2, h3⟩ := hall ids hids
  exact ⟨h1, hl, h2, h3, hb⟩

theorem payloadOk (k : Nat) (hk : k < 260) : PayloadOk (s.payload k).1 (s.payload k).2 := by
  -- the cycles by kind: unit, lasers, calibration date, sensor state
  obtain rfl | ⟨l, p, hp, hlk, rfl⟩ | rfl | ⟨p, hp, rfl⟩ :
      k = 0 ∨ (∃ l p, p < 4 ∧ 4 * l + p + 1 < 256 ∧ k = 4 * l + p + 1) ∨ k = 256 ∨
        (∃ p, p < 3 ∧ k = 257 + p) := by
    rcases Nat.lt_or_ge k 256 with h | h
    · rcases Nat.eq_zero_or_pos k with h0 | h0
      · exact Or.inl h0
      · exact Or.inr (Or.inl ⟨(k - 1) / 4, (k - 1) % 4, by omega, by omega, by omega⟩)
    · rcases Nat.eq_or_lt_of_le h with h' | h'
      · exact Or.inr (Or.inr (Or.inl h'.symm))
      · exact Or.inr (Or.inr (Or.inr ⟨k - 257, by omega, by omega⟩))
  · have ⟨hu, hl⟩ := s.thresholds_bytes
    refine payloadOk_of (show Ids.unit ∈ payloadIds by decide) rfl ?_
    intro v hv
    simp only [payload_unit, Ids.unitText, List.cons_append, List.nil_append, List.mem_cons,
      List.not_mem_nil, or_false] at hv
    omega
  · rcases Nat.lt_or_ge p 3 with hp3 | hp3
    · rw [s.payload_record (by omega) hp3]
      exact payloadOk_of (show Ids.standard ∈ payloadIds by decide) (length_chunk (s.record_length l (by omega)) hp3)
        (chunk_bytes (s.record_bytes l (by omega)) p)
    · have hp3 : p = 3 := by omega
      subst hp3
      have hl63 : l < 63 := by omega
      rw [show 4 * l + 3 + 1 = 4 * l + 4 by omega, s.payload_warning hl63]
      exact payloadOk_of (show Ids.warning ∈ payloadIds by decide) (s.warning_length l hl63) (s.warning_bytes l hl63)
  · exact payloadOk_of (show Ids.standard ∈ payloadIds by decide) s.calibration_length s.calibration_bytes
  · rw [s.payload_state hp]
    have hids : Ids.sensorState.getD p [] ∈ payloadIds := by
      obtain rfl | rfl | rfl : p = 0 ∨ p = 1 ∨ p = 2 := by omega
      all_goals decide
    exact payloadOk_of hids (length_chunk s.state_length hp) (chunk_bytes s.state_bytes p)

theorem cycle_bytes {k : Nat} (hk : k < 260) : ∀ q ∈ s.cycle k, q.1 < 256 ∧ q.2 < 256 := by
  have ok := s.payloadOk k hk
  have hheader : Bytes Ids.header := by decide
  intro q hq
  rcases List.mem_append.1 hq with hq | hq
  · obtain ⟨hid, hv⟩ := List.of_mem_zip hq
    exact ⟨hheader _ hid, (s.header k).bytes _ hv⟩
  · obtain ⟨hid, hv⟩ := List.of_mem_zip hq
    exact ⟨ok.ids_bytes _ hid, ok.values_bytes _ hv⟩

theorem pairs_bytes : ∀ q ∈ s.pairs, q.1 < 256 ∧ q.2 < 256 := by
  intro q hq
  obtain ⟨k, hk, hq⟩ := List.mem_flatMap.1 hq
  exact s.cycle_bytes (List.mem_range.1 hk) q hq

theorem cycle_unit :
    s.cycle 0 = cyclePairs (s.header 0) Ids.unit (Ids.unitText ++ [s.upper, s.lower]) := rfl

theorem cycle_record {l p : Nat} (hl : l < 64) (hp : p < 3) :
    s.cycle (4 * l + p + 1) =
      cyclePairs (s.header (4 * l + p + 1)) Ids.standard (chunk (s.record l) p) := by
  rw [cycle, s.payload_record hl hp]

theorem cycle_warning {l : Nat} (hl : l < 63) :
    s.cycle (4 * l + 4) = cyclePairs (s.header (4 * l + 4)) Ids.warning (s.warning l) := by
  rw [cycle, s.payload_warning hl]

theorem cycle_calibration :
    s.cycle 256 = cyclePairs (s.header 256) Ids.standard s.calibration := rfl

theorem cycle_state {p : Nat} (hp : p < 3) :
    s.cycle (257 + p) =
      cyclePairs (s.header (257 + p)) (Ids.sensorState.getD p []) (chunk s.state p) := by
  rw [cycle, s.payload_state hp]

theorem payload_lastState : s.payload 259 = (Ids.sensorState.getD 2 [], chunk s.state 2) :=
  s.payload_state (show 2 < 3 by decide)

theorem run_cycle_of_lt {a : Accumulator} {k : Nat} (hk : k < 260) (hpos : a.cyclePos = 0)
    (hs : Shaped a) :
    a.run (s.cycle k) = (a.loadCycle (s.header k) (s.payload k).1 (s.payload k).2).endCycle.state :=
  have ok := s.payloadOk k hk
  run_cycle a hpos hs _ ok.ids_length ok.values_length ok.not_header

theorem run_cycles_synced {a : Accumulator} (hpos : a.cyclePos = 0) (hs : Shaped a)
    (ks : List Nat) (hks : ∀ k ∈ ks, k < 260) :
    (a.run (ks.flatMap s.cycle)).cyclePos = 0 ∧ Shaped (a.run (ks.flatMap s.cycle)) := by
  induction ks generalizing a with
  | nil => exact ⟨hpos, hs⟩
  | cons k ks ih =>
    have hk := hks k List.mem_cons_self
    rw [List.flatMap_cons, run_append]
    refine ih ?_ (hs.run _) fun j hj => hks j (List.mem_cons_of_mem k hj)
    rw [s.run_cycle_of_lt hk hpos hs, endCycle_cyclePos]
    rfl

/-- The start of a sequence, at the start of a cycle. -/
structure AtRest (a : Accumulator) : Prop where
  shaped : Shaped a
  pos : a.cyclePos = 0
  stage : a.stage = .unit
  laser : a.laser = 0
  part : a.part = 0

theorem atRest_initial : AtRest initial := ⟨shaped_initial, rfl, rfl, rfl, rfl⟩

theorem range_first_last : List.range 260 = [0] ++ List.range' 1 258 ++ [259] := by
  rw [List.range_eq_range', show (260 : Nat) = 1 + 258 + 1 from rfl, ← List.range'_append_1,
    ← List.range'_append_1]
  rfl

theorem run_pairs_atRest {a : Accumulator} (hs : Shaped a) : AtRest (a.run s.pairs) := by
  -- the first cycle is read or lost as a whole; either way the next one starts a cycle
  have hfirst : (a.run (s.cycle 0)).cyclePos = 0 ∧ Shaped (a.run (s.cycle 0)) := by
    by_cases hpos : a.cyclePos = 0
    · simpa using s.run_cycles_synced hpos hs [0] (by simp)
    · rw [cycle, run_lost a hpos _ (s.payloadOk 0 (by decide)).not_header]
      exact ⟨rfl, hs.withPos 0⟩
  have hmid := s.run_cycles_synced hfirst.1 hfirst.2 (List.range' 1 258)
    (fun k hk => by simp at hk; omega)
  rw [pairs, range_first_last, List.flatMap_append, List.flatMap_append, List.flatMap_singleton,
    List.flatMap_singleton, run_append, run_append, s.run_cycle_of_lt (by decide) hmid.1 hmid.2]
  generalize (a.run (s.cycle 0)).run ((List.range' 1 258).flatMap s.cycle) = b at hmid ⊢
  -- the last cycle ends the sequence whatever the stage
  have hids : (b.loadCycle (s.header 259) (s.payload 259).1 (s.payload 259).2).cycleIds =
      (Ids.sensorState.getD 2 []).toArray := by
    rw [loadCycle, s.payload_lastState]
  obtain ⟨hst, hl, hp⟩ := endCycle_lastState hids
  refine ⟨?_, by rw [endCycle_cyclePos]; rfl, hst, hl, hp⟩
  rw [← s.run_cycle_of_lt (by decide) hmid.1 hmid.2]
  exact hmid.2.run _

/-- Before the records of laser `L` of a sequence taken in order: the thresholds read, the
flags of the last warning read, and the records of the lasers before `L` in place. -/
structure BeforeLaser (L : Nat) (a : Accumulator) : Prop where
  atPart : AtPart L 0 a
  upper : a.report.upperThreshold = s.upper
  lower : a.report.lowerThreshold = s.lower
  flags : 0 < L → a.report.withWarning ((s.warning (L - 1)).getD 0 0) = a.report
  rows : ∀ i < L, a.laserBytes[i]? = some (s.record i).toArray

theorem run_unit {a : Accumulator} (ha : AtRest a) : s.BeforeLaser 0 (a.run (s.cycle 0)) := by
  have hs := ha.shaped.run (s.cycle 0)
  rw [cycle_unit, run_unitCycle _ ha.stage ha.pos ha.shaped] at hs ⊢
  exact ⟨⟨hs, rfl, rfl, rfl, rfl⟩, rfl, rfl, fun h => absurd h (Nat.lt_irrefl 0),
    fun i hi => absurd hi (Nat.not_lt_zero i)⟩

theorem chunk_laser {l : Nat} (hl : l < 64) : (chunk (s.record l) 0).getD 0 0 = l := by
  simpa [chunk, List.getD_eq_getElem?_getD] using s.record_laser l hl

theorem run_laser {a : Accumulator} {L : Nat} (ha : s.BeforeLaser L a) (hL : L < 63) :
    s.BeforeLaser (L + 1) (a.run ((List.range' (4 * L + 1) 4).flatMap s.cycle)) := by
  have hks : List.range' (4 * L + 1) 4 =
      [4 * L + 0 + 1, 4 * L + 1 + 1, 4 * L + 2 + 1, 4 * L + 4] := rfl
  have hr := s.record_length L (by omega)
  rw [hks, List.flatMap_cons, List.flatMap_cons, List.flatMap_cons, List.flatMap_cons,
    List.flatMap_nil, List.append_nil, run_append, run_append, run_append,
    s.cycle_record (by omega) (by decide : 0 < 3), s.cycle_record (by omega) (by decide : 1 < 3),
    s.cycle_record (by omega) (by decide : 2 < 3), s.cycle_warning hL]
  generalize s.header (4 * L + 0 + 1) = h1
  generalize s.header (4 * L + 1 + 1) = h2
  generalize s.header (4 * L + 2 + 1) = h3
  generalize s.header (4 * L + 4) = h4
  -- one cycle at a time: the state it leaves, and where that stands
  have e1 := run_recordCycle h1 ha.atPart (length_chunk hr (by decide : 0 < 3)) (by decide)
    (fun _ => s.chunk_laser (by omega)) (by omega)
  have a1 : AtPart L 1 _ := ha.atPart.run_record h1 (length_chunk hr (by decide : 0 < 3)) (by decide)
    (fun _ => s.chunk_laser (by omega)) (by omega)
  generalize a.run (cyclePairs h1 Ids.standard (chunk (s.record L) 0)) = b1 at e1 a1 ⊢
  have e2 := run_recordCycle h2 a1 (length_chunk hr (by decide : 1 < 3)) (by decide : 1 < 3) (by simp)
    (by omega)
  have a2 : AtPart L 2 _ := a1.run_record h2 (length_chunk hr (by decide : 1 < 3)) (by decide : 1 < 3)
    (by simp) (by omega)
  generalize b1.run (cyclePairs h2 Ids.standard (chunk (s.record L) 1)) = b2 at e2 a2 ⊢
  have e3 := run_recordCycle h3 a2 (length_chunk hr (by decide : 2 < 3)) (by decide : 2 < 3) (by simp)
    (by omega)
  have a3 : AtPart L 3 _ := a2.run_record h3 (length_chunk hr (by decide : 2 < 3)) (by decide : 2 < 3)
    (by simp) (by omega)
  generalize b2.run (cyclePairs h3 Ids.standard (chunk (s.record L) 2)) = b3 at e3 a3 ⊢
  have e4 := run_warningCycle h4 a3 (s.warning_length L hL)
  have a4 := a3.run_warning h4 (s.warning_length L hL)
  generalize b3.run (cyclePairs h4 Ids.warning (s.warning L)) = b4 at e4 a4 ⊢
  subst e4 e3 e2 e1
  refine ⟨a4, by simp [loadCycle, Report.withHeader, Report.withWarning, ha.upper],
    by simp [loadCycle, Report.withHeader, Report.withWarning, ha.lower],
    fun _ => by simp [loadCycle, Report.withWarning], ?_⟩
  -- the row of laser L is its record; the rows before it are kept
  intro i hi
  simp only [loadCycle]
  rw [modify_writePart_three _ ha.atPart.shaped.rows L (length_chunk hr (by decide : 0 < 3))
    (length_chunk hr (by decide : 1 < 3)) (length_chunk hr (by decide : 2 < 3)),
    chunks_append hr, Array.getElem?_setIfInBounds]
  rcases Nat.lt_or_ge i L with hlt | hge
  · rw [if_neg (Nat.ne_of_gt hlt), ha.rows i hlt]
  · have hiL : i = L := by omega
    subst hiL
    rw [if_pos rfl, if_pos (by rw [ha.atPart.shaped.lasers]; omega)]

theorem run_lasers {a : Accumulator} (ha : s.BeforeLaser 0 a) (L : Nat) (hL : L ≤ 63) :
    s.BeforeLaser L (a.run ((List.range' 1 (4 * L)).flatMap s.cycle)) := by
  induction L with
  | zero => simpa using ha
  | succ L ih =>
    rw [show 4 * (L + 1) = 4 * L + 4 by omega, ← List.range'_append_1, List.flatMap_append,
      run_append, show 1 + 4 * L = 4 * L + 1 by omega]
    exact s.run_laser (ih (by omega)) (by omega)

/-- After the records of the last laser: the calibration date comes next, and every laser's
record is in place. -/
structure BeforeCalibration (a : Accumulator) : Prop where
  shaped : Shaped a
  pos : a.cyclePos = 0
  stage : a.stage = .calibrationDatetime
  upper : a.report.upperThreshold = s.upper
  lower : a.report.lowerThreshold = s.lower
  flags : a.report.withWarning ((s.warning 62).getD 0 0) = a.report
  rows : ∀ i < 64, a.laserBytes[i]? = some (s.record i).toArray

theorem run_lastLaser {a : Accumulator} (ha : s.BeforeLaser 63 a) :
    s.BeforeCalibration (a.run ((List.range' 253 3).flatMap s.cycle)) := by
  have hks : List.range' 253 3 = [4 * 63 + 0 + 1, 4 * 63 + 1 + 1, 4 * 63 + 2 + 1] := rfl
  have hr := s.record_length 63 (by decide)
  have hs := ha.atPart.shaped.run ((List.range' 253 3).flatMap s.cycle)
  rw [hks, List.flatMap_cons, List.flatMap_cons, List.flatMap_cons, List.flatMap_nil,
    List.append_nil, run_append, run_append, s.cycle_record (by decide) (by decide : 0 < 3),
    s.cycle_record (by decide) (by decide : 1 < 3), s.cycle_record (by decide) (by decide : 2 < 3)]
    at hs ⊢
  generalize s.header (4 * 63 + 0 + 1) = h1 at hs ⊢
  generalize s.header (4 * 63 + 1 + 1) = h2 at hs ⊢
  generalize s.header (4 * 63 + 2 + 1) = h3 at hs ⊢
  have e1 := run_recordCycle h1 ha.atPart (length_chunk hr (by decide : 0 < 3)) (by decide)
    (fun _ => s.chunk_laser (by decide)) (by decide)
  have a1 : AtPart 63 1 _ := ha.atPart.run_record h1 (length_chunk hr (by decide : 0 < 3))
    (by decide) (fun _ => s.chunk_laser (by decide)) (by decide)
  generalize a.run (cyclePairs h1 Ids.standard (chunk (s.record 63) 0)) = b1 at e1 a1 hs ⊢
  have e2 := run_recordCycle h2 a1 (length_chunk hr (by decide : 1 < 3)) (by decide) (by simp)
    (by decide)
  have a2 : AtPart 63 2 _ := a1.run_record h2 (length_chunk hr (by decide : 1 < 3)) (by decide)
    (by simp) (by decide)
  generalize b1.run (cyclePairs h2 Ids.standard (chunk (s.record 63) 1)) = b2 at e2 a2 hs ⊢
  have e3 := run_recordCycle_last h3 a2 (length_chunk hr (by decide : 2 < 3))
  generalize b2.run (cyclePairs h3 Ids.standard (chunk (s.record 63) 2)) = b3 at e3 hs ⊢
  subst e3 e2 e1
  refine ⟨hs, rfl, rfl, by simp [loadCycle, Report.withHeader, ha.upper],
    by simp [loadCycle, Report.withHeader, ha.lower], ?_, ?_⟩
  · have hf := ha.flags (by decide)
    simp only [loadCycle]
    rw [← hf]
    rfl
  -- the last row is the last record; the rows before it are kept
  intro i hi
  rw [modify_writePart_three _ ha.atPart.shaped.rows 63 (length_chunk hr (by decide : 0 < 3))
    (length_chunk hr (by decide : 1 < 3)) (length_chunk hr (by decide : 2 < 3)),
    chunks_append hr, Array.getElem?_setIfInBounds]
  rcases Nat.lt_or_ge i 63 with hlt | hge
  · rw [if_neg (Nat.ne_of_gt hlt), ha.rows i hlt]
  · have hi63 : i = 63 := by omega
    subst hi63
    rw [if_pos rfl, if_pos (by rw [ha.atPart.shaped.lasers]; decide)]

/-- The report a sequence encodes: date, GPS state, temperature and firmware from its last
header, the flags of the warning after laser 62, the thresholds, the calibration date and
humidity, and the sensor state's speed, field of view, life time, addresses, return setting and
power setting. -/
def report : Report where
  datetime := some (s.header 259).datetime
  gps := (s.header 259).gps
  temperature := (s.header 259).values.getD 7 0
  firmware := (s.header 259).values.getD 8 0
  lensContamination := ((s.warning 62).getD 0 0).testBit 0
  hot := ((s.warning 62).getD 0 0).testBit 1
  cold := ((s.warning 62).getD 0 0).testBit 2
  pps := ((s.warning 62).getD 0 0).testBit 5
  gpsTime := ((s.warning 62).getD 0 0).testBit 6
  rpm := word s.state 0
  fovStart := Float.ofNat (word s.state 2) * 0.01
  fovEnd := Float.ofNat (word s.state 4) * 0.01
  realLifeTime := word s.state 6
  ipSource := (s.state.drop 8).take 4
  ipDest := (s.state.drop 12).take 4
  returnKind := s.returnKind
  powerLevel := s.power.1
  manualPower := s.power.2
  humidity := s.calibration.getD 6 0
  upperThreshold := s.upper
  lowerThreshold := s.lower
  calibrationDatetime := some s.calibrationDatetime

def closing (r : Report) : Report :=
  { r.withHeader (s.header 259) with
    calibrationDatetime := some s.calibrationDatetime, humidity := s.calibration.getD 6 0,
    rpm := word s.state 0, fovStart := Float.ofNat (word s.state 2) * 0.01,
    fovEnd := Float.ofNat (word s.state 4) * 0.01, realLifeTime := word s.state 6,
    ipSource := (s.state.drop 8).take 4, ipDest := (s.state.drop 12).take 4,
    returnKind := s.returnKind, powerLevel := s.power.1, manualPower := s.power.2 }

theorem closing_eq_report {r : Report} (hu : r.upperThreshold = s.upper)
    (hl : r.lowerThreshold = s.lower) (hf : r.withWarning ((s.warning 62).getD 0 0) = r) :
    s.closing r = s.report := by
  rw [← hf]
  cases r
  simp only at hu hl
  simp [closing, report, Report.withHeader, Report.withWarning, hu, hl]

/-- A sequence completed from a state: at the start of the next sequence, initialized, with
the laser records of that state and the report of the last four cycles. -/
structure Completed (a b : Accumulator) : Prop where
  atRest : AtRest b
  initialized : b.initialized = true
  records : b.records = some a.laserBytes
  report : b.report = s.closing a.report

theorem run_tail {a : Accumulator} (hst : a.stage = .calibrationDatetime) (hpos : a.cyclePos = 0)
    (hs : Shaped a) : s.Completed a (a.run ((List.range' 256 4).flatMap s.cycle)) := by
  have hks : List.range' 256 4 = [256, 257 + 0, 257 + 1, 257 + 2] := rfl
  have hsr := hs.run ((List.range' 256 4).flatMap s.cycle)
  rw [hks, List.flatMap_cons, List.flatMap_cons, List.flatMap_cons, List.flatMap_cons,
    List.flatMap_nil, List.append_nil, run_append, run_append, run_append, cycle_calibration,
    s.cycle_state (by decide : 0 < 3), s.cycle_state (by decide : 1 < 3),
    s.cycle_state (by decide : 2 < 3)] at hsr ⊢
  generalize s.header 256 = h0 at hsr ⊢
  generalize s.header (257 + 0) = h1 at hsr ⊢
  generalize s.header (257 + 1) = h2 at hsr ⊢
  have hl := s.state_length
  -- one cycle at a time, keeping what the next one needs
  have e1 := run_calibrationCycle h0 hst hpos hs s.calibration_length s.calibration_eq
  have hs1 := hs.run (cyclePairs h0 Ids.standard s.calibration)
  generalize a.run (cyclePairs h0 Ids.standard s.calibration) = b1 at e1 hs1 hsr ⊢
  have st1 : b1.stage = .sensorState := by rw [e1]
  have p1 : b1.part = 0 := by rw [e1]
  have e2 := run_stateCycle h1 st1 p1 (by decide : 0 < 2) (by rw [e1]; rfl) hs1
    (length_chunk hl (by decide : 0 < 3))
  have hs2 := hs1.run (cyclePairs h1 (Ids.sensorState.getD 0 []) (chunk s.state 0))
  generalize b1.run (cyclePairs h1 (Ids.sensorState.getD 0 []) (chunk s.state 0)) = b2
    at e2 hs2 hsr ⊢
  have st2 : b2.stage = .sensorState := by rw [e2]; exact st1
  have p2 : b2.part = 1 := by rw [e2]
  have e3 := run_stateCycle h2 st2 p2 (by decide : 1 < 2) (by rw [e2]; rfl) hs2
    (length_chunk hl (by decide : 1 < 3))
  have hs3 := hs2.run (cyclePairs h2 (Ids.sensorState.getD 1 []) (chunk s.state 1))
  generalize b2.run (cyclePairs h2 (Ids.sensorState.getD 1 []) (chunk s.state 1)) = b3
    at e3 hs3 hsr ⊢
  have st3 : b3.stage = .sensorState := by rw [e3]; exact st2
  have p3 : b3.part = 2 := by rw [e3]
  have pos3 : b3.cyclePos = 0 := by rw [e3]; rfl
  have lb3 : b3.laserBytes = a.laserBytes := by rw [e3, e2, e1]; rfl
  have rp3 : b3.report = (({ a.report.withHeader h0 with
      calibrationDatetime := some s.calibrationDatetime,
      humidity := s.calibration.getD 6 0 }).withHeader h1).withHeader h2 := by
    rw [e3, e2, e1]; rfl
  -- the three parts fill the sensor state, which then completes the sequence
  have hfill : writePart b3.stateBytes 2 (chunk s.state 2) = s.state.toArray := by
    rw [e3, e2, e1]
    exact writePart_chunks _ hs.state hl
  have hb : completeSequence { b3.loadCycle (s.header (257 + 2)) (Ids.sensorState.getD 2 [])
      (chunk s.state 2) with stateBytes := writePart b3.stateBytes 2 (chunk s.state 2) } = .ok _ :=
    completeSequence_of_state hfill hl s.returnKind_eq s.power_eq
  rw [run_stateCycle_last _ st3 p3 pos3 hs3 (length_chunk hl (by decide : 2 < 3)) hb] at hsr ⊢
  exact ⟨⟨hsr, rfl, rfl, rfl, rfl⟩, rfl, by simp [restart, loadCycle, lb3],
    by simp [restart, closing, loadCycle, rp3, Report.withHeader]⟩

def table : Array (Array Nat) := ((List.range 64).map fun l => (s.record l).toArray).toArray

/-- A sequence read whole: at the start of the next sequence, initialized, with the report and
the laser records of the sequence. -/
structure Recovered (b : Accumulator) : Prop where
  atRest : AtRest b
  initialized : b.initialized = true
  report : b.report = s.report
  records : b.records = some s.table

theorem range_phases :
    List.range 260 =
      [0] ++ List.range' 1 (4 * 63) ++ List.range' 253 3 ++ List.range' 256 4 := by
  rw [List.range_eq_range', show (260 : Nat) = 1 + 4 * 63 + 3 + 4 from rfl,
    ← List.range'_append_1, ← List.range'_append_1, ← List.range'_append_1]
  rfl

theorem run_pairs_recovered {a : Accumulator} (ha : AtRest a) : s.Recovered (a.run s.pairs) := by
  rw [pairs, range_phases, List.flatMap_append, List.flatMap_append, List.flatMap_append,
    List.flatMap_singleton, run_append, run_append, run_append]
  -- the unit cycle, the lasers before the last, the last laser, then the closing cycles
  have hlast := s.run_lastLaser (s.run_lasers (s.run_unit ha) 63 (Nat.le_refl 63))
  have htail := s.run_tail hlast.stage hlast.pos hlast.shaped
  refine ⟨htail.atRest, htail.initialized, ?_, ?_⟩
  · rw [htail.report]
    exact s.closing_eq_report hlast.upper hlast.lower hlast.flags
  · rw [htail.records, table]
    congr 1
    apply Array.ext_getElem?
    intro i
    rcases Nat.lt_or_ge i 64 with hi | hi
    · rw [hlast.rows i hi]
      simp [hi]
    · rw [Array.getElem?_eq_none (by rw [hlast.shaped.lasers]; omega)]
      simp [hi]

end Sequence

end SpinLidar.Status
