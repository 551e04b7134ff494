import SpinLidar.Proofs.StatusSequence
namespace SpinLidar.Status

open Accumulator

theorem ok_of_toOption {ε α : Type} {e : Except ε α} {x : α} (h : e.toOption = some x) :
    e = .ok x := by
  cases e <;> simp_all [Except.toOption]

def Header.standard : Header where
  values := [7, 8, 9, 6, 5, 24, 0x41, 38, 0x47]
  length_eq := rfl
  bytes := by decide
  datetime := 1714979289
  datetime_eq := ok_of_toOption (by decide +kernel)
  gps := .syncNmea
  gps_eq := rfl

/-- The standard sequence: thresholds 30 and 40, each laser's default record, pps and lens
warnings, calibrated 2023-12-31 23:59:58 at 17 % humidity, and the default sensor state. -/
def Sequence.standard : Sequence where
  header := fun _ => Header.standard
  upper := 30
  lower := 40
  record := fun l => (defaultRecord l).map Int.toNat
  warning := fun _ => [0x21, 0, 0, 0, 0, 0, 0]
  calibration := [23, 12, 31, 23, 59, 58, 17]
  state := defaultState.map Int.toNat
  thresholds_bytes := by decide
  record_length := by decide +kernel
  record_bytes := by decide +kernel
  record_laser := by decide +kernel
  warning_length := by decide
  warning_bytes := by decide
  calibration_length := rfl
  calibration_bytes := by decide
  calibrationDatetime := 1704067198
  calibration_eq := ok_of_toOption (by decide +kernel)
  state_length := by decide +kernel
  state_bytes := by decide +kernel
  returnKind := .both
  returnKind_eq := by decide +kernel
  power := (.autoNormalized, none)
  power_eq := ok_of_toOption (by decide +kernel)

/-- Whatever bytes come first, two valid sequences in a row are fed without a fault and leave
the accumulator initialized, with the report and the calibration table of the second. -/
theorem recovers_second_sequence (w : List (Nat × Nat)) (hw : ∀ p ∈ w, p.1 < 256 ∧ p.2 < 256)
    (s1 s2 : Sequence) (res : Float) :
    (initial.feedAll (wire (w ++ s1.pairs ++ s2.pairs))).2 = none ∧
      (initial.feedAll (wire (w ++ s1.pairs ++ s2.pairs))).1.state.initialized = true ∧
      (initial.feedAll (wire (w ++ s1.pairs ++ s2.pairs))).1.state.report = s2.report ∧
      (initial.feedAll (wire (w ++ s1.pairs ++ s2.pairs))).1.state.calibration res =
        Calibration.make (s2.table.map recordEntry) res "HDL-64E status bytes" := by
  have hbytes : ∀ p ∈ w ++ s1.pairs ++ s2.pairs, p.1 < 256 ∧ p.2 < 256 := by
    intro p hp
    simp only [List.mem_append] at hp
    rcases hp with (hp | hp) | hp
    · exact hw p hp
    · exact s1.pairs_bytes p hp
    · exact s2.pairs_bytes p hp
  obtain ⟨hnone, hrun⟩ := feedAll_bytes initial _ hbytes
  rw [hrun, run_append, run_append]
  -- whatever w leaves, the first sequence ends at the start of a sequence
  have hrec := s2.run_pairs_recovered (s1.run_pairs_atRest (shaped_initial.run w))
  refine ⟨hnone, hrec.initialized, hrec.report, ?_⟩
  rw [calibration, hrec.records]

theorem recovers_second_sequence_after_noise :
    (∀ p ∈ [(0x4D, 8), (0x31, 0x55), (0x48, 7)], p.1 < 256 ∧ p.2 < 256) ∧
      (initial.feedAll (wire ([(0x4D, 8), (0x31, 0x55), (0x48, 7)] ++ Sequence.standard.pairs ++
        Sequence.standard.pairs))).2 = none ∧
      (initial.feedAll (wire ([(0x4D, 8), (0x31, 0x55), (0x48, 7)] ++ Sequence.standard.pairs ++
        Sequence.standard.pairs))).1.state.initialized = true ∧
      (initial.feedAll (wire ([(0x4D, 8), (0x31, 0x55), (0x48, 7)] ++ Sequence.standard.pairs ++
        Sequence.standard.pairs))).1.state.report = Sequence.standard.report ∧
      (initial.feedAll (wire ([(0x4D, 8), (0x31, 0x55), (0x48, 7)] ++ Sequence.standard.pairs ++
        Sequence.standard.pairs))).1.state.calibration Calibration.defaultResolution =
        Calibration.make (Sequence.standard.table.map recordEntry) Calibration.defaultResolution
          "HDL-64E status bytes" :=
  ⟨by decide, recovers_second_sequence _ (by decide) _ _ _⟩

namespace Sequence

variable (s : Sequence)

theorem length_cycle {k : Nat} (hk : k < 260) : (s.cycle k).length = 16 := by
  have ok := s.payloadOk k hk
  simp [cycle, cyclePairs, (s.header k).length_eq, ok.ids_length, ok.values_length, Ids.header]

theorem length_pairs : s.pairs.length = 4160 := by
  rw [pairs, List.length_flatMap,
    List.map_congr_left fun k hk => s.length_cycle (List.mem_range.1 hk), List.map_const',
    List.length_range, List.sum_replicate_nat]

/-- A fresh accumulator fed the pairs of one sequence with some of them lost is initialized
only if none was lost; it then holds the report and the calibration table of the sequence. -/
theorem sublist_initializes_whole (w : List (Nat × Nat)) (hw : w.Sublist s.pairs)
    (hinit : (initial.feedAll (wire w)).1.state.initialized = true) (res : Float) :
    w = s.pairs ∧ (initial.feedAll (wire w)).1.state.report = s.report ∧
      (initial.feedAll (wire w)).1.state.calibration res =
        Calibration.make (s.table.map recordEntry) res "HDL-64E status bytes" := by
  obtain ⟨-, hrun⟩ := feedAll_bytes initial w fun p hp => s.pairs_bytes p (hw.subset hp)
  rw [hrun] at hinit ⊢
  -- a whole sequence is the fewest pairs that initialize, and a sublist has no more
  have hlen : w.length = s.pairs.length :=
    Nat.le_antisymm hw.length_le (s.length_pairs ▸ initialized_length w hinit)
  obtain rfl := hw.eq_of_length hlen
  have hrec := s.run_pairs_recovered atRest_initial
  refine ⟨rfl, hrec.report, ?_⟩
  rw [Accumulator.calibration, hrec.records]

end Sequence

theorem standard_initializes_whole :
    Sequence.standard.pairs.Sublist Sequence.standard.pairs ∧
      (initial.feedAll (wire Sequence.standard.pairs)).1.state.initialized = true ∧
      (Sequence.standard.pairs = Sequence.standard.pairs ∧
        (initial.feedAll (wire Sequence.standard.pairs)).1.state.report =
          Sequence.standard.report ∧
        (initial.feedAll (wire Sequence.standard.pairs)).1.state.calibration
            Calibration.defaultResolution =
          Calibration.make (Sequence.standard.table.map recordEntry) Calibration.defaultResolution
            "HDL-64E status bytes") := by
  have hinit : (initial.feedAll (wire Sequence.standard.pairs)).1.state.initialized = true := by
    rw [(feedAll_bytes initial _ Sequence.standard.pairs_bytes).2]
    exact (Sequence.standard.run_pairs_recovered Sequence.atRest_initial).initialized
  exact ⟨List.Sublist.refl _, hinit,
    Sequence.standard.sublist_initializes_whole _ (List.Sublist.refl _) hinit _⟩

namespace Sequence

variable (s : Sequence)

/-- A sequence whose last laser lost the first pair of its second record cycle, cut after its
calibration date cycle, then the last four cycles of the next copy of the sequence. -/
def lostHeader : List (Nat × Nat) :=
  (List.range 254).flatMap s.cycle ++ (s.cycle 254).tail ++ s.cycle 255 ++ s.cycle 256 ++
    (List.range' 256 4).flatMap s.cycle

def misassembled : List Nat := chunk (s.record 63) 0 ++ chunk (s.record 63) 2 ++ s.calibration

theorem range_split (m n : Nat) : List.range (m + n) = List.range m ++ List.range' m n := by
  rw [List.range_add, List.range'_eq_map_range]

theorem lostHeader_sublist : s.lostHeader.Sublist (s.pairs ++ s.pairs) := by
  -- all of the first copy up to its calibration date cycle but one pair, then the second
  -- copy's last four cycles
  have hfirst : ((List.range 254).flatMap s.cycle ++ (s.cycle 254).tail ++ s.cycle 255 ++
      s.cycle 256).Sublist s.pairs := by
    rw [pairs, show (260 : Nat) = 254 + 6 from rfl, range_split]
    have hmid : List.range' 254 6 = [254, 255, 256] ++ List.range' 257 3 := rfl
    simp only [hmid, List.flatMap_append, List.flatMap_cons, List.flatMap_nil, List.append_nil,
      List.append_assoc]
    exact (List.Sublist.refl _).append ((List.tail_sublist _).append
      ((List.Sublist.refl _).append (List.sublist_append_left _ _)))
  have hlast : ((List.range' 256 4).flatMap s.cycle).Sublist s.pairs := by
    rw [pairs, show (260 : Nat) = 256 + 4 from rfl, range_split, List.flatMap_append]
    exact List.sublist_append_right _ _
  exact hfirst.append hlast

theorem range_lastLaser : List.range 254 = [0] ++ List.range' 1 (4 * 63) ++ [253] := by
  rw [List.range_eq_range', show (254 : Nat) = 1 + 4 * 63 + 1 from rfl, ← List.range'_append_1,
    ← List.range'_append_1]
  rfl

/-- Where the last laser's cycles with a lost header pair leave a state: its record assembled
from the wrong cycles, the calibration date next. -/
structure LostLastLaser (b : Accumulator) : Prop where
  shaped : Shaped b
  pos : b.cyclePos = 0
  stage : b.stage = .calibrationDatetime
  lasers : b.laserBytes = s.table.setIfInBounds 63 s.misassembled.toArray

theorem run_lostLastLaser {a : Accumulator} (ha : s.BeforeLaser 63 a) :
    s.LostLastLaser (a.run (s.cycle 253 ++ (s.cycle 254).tail ++ s.cycle 255 ++ s.cycle 256)) := by
  have c253 : s.cycle 253 = cyclePairs (s.header 253) Ids.standard (chunk (s.record 63) 0) :=
    s.cycle_record (by decide : 63 < 64) (by decide : 0 < 3)
  have c254 : s.cycle 254 = cyclePairs (s.header 254) Ids.standard (chunk (s.record 63) 1) :=
    s.cycle_record (by decide : 63 < 64) (by decide : 1 < 3)
  have c255 : s.cycle 255 = cyclePairs (s.header 255) Ids.standard (chunk (s.record 63) 2) :=
    s.cycle_record (by decide : 63 < 64) (by decide : 2 < 3)
  have hr := s.record_length 63 (by decide)
  rw [run_append, run_append, run_append, c253, c254, c255, cycle_calibration]
  have e1 := run_recordCycle (s.header 253) ha.atPart (length_chunk hr (by decide : 0 < 3))
    (by decide) (fun _ => s.chunk_laser (by decide)) (by decide)
  have a1 : AtPart 63 1 _ := ha.atPart.run_record (s.header 253)
    (length_chunk hr (by decide : 0 < 3)) (by decide) (fun _ => s.chunk_laser (by decide))
    (by decide)
  generalize a.run (cyclePairs (s.header 253) Ids.standard (chunk (s.record 63) 0)) = b1
    at e1 a1 ⊢
  rw [run_headless b1 a1.pos _ (by decide)]
  have e2 := run_recordCycle (s.header 255) a1 (length_chunk hr (by decide : 2 < 3))
    (by decide : 1 < 3) (by simp) (by decide)
  have a2 : AtPart 63 2 _ := a1.run_record (s.header 255) (length_chunk hr (by decide : 2 < 3))
    (by decide : 1 < 3) (by simp) (by decide)
  generalize b1.run (cyclePairs (s.header 255) Ids.standard (chunk (s.record 63) 2)) = b2
    at e2 a2 ⊢
  have e3 := run_recordCycle_last (s.header 256) a2 s.calibration_length
  have hs3 := a2.shaped.run (cyclePairs (s.header 256) Ids.standard s.calibration)
  rw [e3] at hs3 ⊢
  refine ⟨hs3, rfl, rfl, ?_⟩
  rw [e2, e1, modify_writePart_three _ ha.atPart.shaped.rows 63
    (length_chunk hr (by decide : 0 < 3)) (length_chunk hr (by decide : 2 < 3))
    s.calibration_length]
  -- the last row is set on both sides; the others are the sequence's records
  have hsz : s.table.size = 64 := by simp [table]
  apply Array.ext_getElem?
  intro i
  simp only [Array.getElem?_setIfInBounds, misassembled]
  by_cases h63 : 63 = i
  · rw [if_pos h63, if_pos h63, if_pos (by rw [ha.atPart.shaped.lasers]; decide),
      if_pos (by rw [hsz]; decide)]
  · rw [if_neg h63, if_neg h63]
    rcases Nat.lt_or_ge i 63 with hlt | hge
    · rw [ha.rows i hlt]
      simp [table, Nat.lt_trans hlt (by decide : 63 < 64)]
    · rw [Array.getElem?_eq_none (by rw [ha.atPart.shaped.lasers]; omega),
        Array.getElem?_eq_none (by rw [hsz]; omega)]

theorem run_lostHeader :
    (initial.run s.lostHeader).initialized = true ∧
      (initial.run s.lostHeader).records = some (s.table.setIfInBounds 63 s.misassembled.toArray) := by
  have hsplit : s.lostHeader = s.cycle 0 ++ (List.range' 1 (4 * 63)).flatMap s.cycle ++
      (s.cycle 253 ++ (s.cycle 254).tail ++ s.cycle 255 ++ s.cycle 256) ++
      (List.range' 256 4).flatMap s.cycle := by
    simp only [lostHeader, range_lastLaser, List.flatMap_append, List.flatMap_singleton,
      List.append_assoc]
  rw [hsplit, run_append _ _ ((List.range' 256 4).flatMap s.cycle),
    run_append _ _ (s.cycle 253 ++ _ ++ _ ++ _), run_append _ (s.cycle 0)]
  -- the first copy ends before its calibration date; the second copy's last four cycles
  -- complete it
  have hlast := s.run_lostLastLaser (s.run_lasers (s.run_unit atRest_initial) 63 (Nat.le_refl 63))
  have htail := s.run_tail hlast.stage hlast.pos hlast.shaped
  exact ⟨htail.initialized, by rw [htail.records, hlast.lasers]⟩

end Sequence

theorem lost_header_misassembles_last_record :
    Sequence.standard.lostHeader.Sublist (Sequence.standard.pairs ++ Sequence.standard.pairs) ∧
      (initial.feedAll (wire Sequence.standard.lostHeader)).1.state.initialized = true ∧
      ∃ rs : Array (Array Nat),
        (∀ res, (initial.feedAll (wire Sequence.standard.lostHeader)).1.state.calibration res =
          Calibration.make (rs.map recordEntry) res "HDL-64E status bytes") ∧
        (rs.map recordEntry)[63]?.map Entry.maxIntensity = some 17 ∧
        (Sequence.standard.table.map recordEntry)[63]?.map Entry.maxIntensity = some 250 := by
  have hsub := Sequence.standard.lostHeader_sublist
  have hbytes : ∀ p ∈ Sequence.standard.lostHeader, p.1 < 256 ∧ p.2 < 256 := by
    intro p hp
    rcases List.mem_append.1 (hsub.subset hp) with hp | hp <;>
      exact Sequence.standard.pairs_bytes p hp
  obtain ⟨-, hrun⟩ := feedAll_bytes initial _ hbytes
  obtain ⟨hinit, hrec⟩ := Sequence.standard.run_lostHeader
  refine ⟨hsub, hrun ▸ hinit, _, fun res => by rw [hrun, calibration, hrec], ?_, ?_⟩
  · decide +kernel
  · decide +kernel

end SpinLidar.Status
