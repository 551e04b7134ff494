import SpinLidar.Proofs.StatusFrame
namespace SpinLidar.Status.Accumulator

/-- A payload cycle that is not taken in order leaves the report as it was: a cycle out of order
changes nothing, and a refused date or sensor state is refused before anything is stored. -/
theorem consumeCycle_report (a : Accumulator) (ids values : List Nat) :
    (a.consumeCycle ids values).2 = .inOrder ∨ (a.consumeCycle ids values).1.report = a.report := by
  rcases a with ⟨report, init, header, cids, cvals, pos, stage, laser, part, lb, sb, recs⟩
  unfold consumeCycle
  cases stage with
  | unit =>
    simp only
    split_ifs
    · exact .inr rfl
    · exact .inl rfl
  | lasers =>
    simp only
    split_ifs
    · exact .inr rfl
    · exact .inl rfl
    · exact .inl rfl
    · exact .inr rfl
    · exact .inl rfl
  | calibrationDatetime =>
    simp only
    split_ifs
    · exact .inr rfl
    · split
      · exact .inr rfl
      · exact .inl rfl
  | sensorState =>
    simp only
    split_ifs
    · exact .inr rfl
    · exact .inl rfl
    · split
      · exact .inr rfl
      · exact .inl rfl

theorem endCycle_report (a : Accumulator) :
    a.endCycle.warnings = [] ∨ a.endCycle.state.report = a.report := by
  have hc := consumeCycle_report a a.cycleIds.toList a.cycleValues.toList
  unfold endCycle
  split
  · exact .inl rfl
  all_goals
    rename_i heq
    rw [heq] at hc
    exact .inr (hc.resolve_left nofun)

theorem updateHeader_cases (a : Accumulator) :
    (∃ e, a.updateHeader = (a, some e)) ∨
      (∃ code dt, Gps.ofCode? code = none ∧
        a.updateHeader = ({ a with report := { a.report with datetime := some dt } },
          some (.unknownGps code))) ∨
      ∃ b, a.updateHeader = (b, none) := by
  unfold updateHeader
  simp only
  split
  · exact .inl ⟨_, rfl⟩
  · split
    · next hgps => exact .inr (.inl ⟨_, _, hgps, rfl⟩)
    · exact .inr (.inr ⟨_, rfl⟩)

/-- Reading a header logs something only when it refuses the header. A header refused for its
date leaves the report as it was; one refused for its GPS code leaves the date and time it
carried. -/
theorem readHeader_report (a : Accumulator) :
    a.readHeader.warnings = [] ∨ a.readHeader.state.report = a.report ∨
      ∃ code dt, Gps.ofCode? code = none ∧
        a.readHeader.warnings = [(StatusError.unknownGps code).message] ∧
        a.readHeader.state.report = { a.report with datetime := some dt } := by
  rcases updateHeader_cases a with ⟨e, he⟩ | ⟨code, dt, hgps, he⟩ | ⟨b, he⟩
  · exact .inr (.inl (by simp [readHeader, he, restart]))
  · exact .inr (.inr ⟨code, dt, hgps, by simp [readHeader, he], by simp [readHeader, he, restart]⟩)
  · exact .inl (by simp [readHeader, he])

/-- A feed that logs a status error leaves the report as it was, with one exception: a header
refused for an unknown GPS code has already stored its date and time. The report then differs
from the one before in its date and time alone. -/
theorem feed_refusal_keeps_report (a : Accumulator) (id value : Int) (f : Fed)
    (h : a.feed id value = .ok f) (e : StatusError) (he : e.message ∈ f.warnings) :
    f.state.report = a.report ∨
      ∃ code dt, Gps.ofCode? code = none ∧ f.warnings = [(StatusError.unknownGps code).message] ∧
        f.state.report = { a.report with datetime := some dt } := by
  rw [feed_eq_ok h] at he ⊢
  -- a step that stores a value and goes on logs nothing
  rcases step_cases a id.toNat value.toNat with ⟨-, hs⟩ | ⟨-, -, hs⟩ | ⟨-, -, hs⟩ | ⟨-, -, -, hs⟩ |
    ⟨-, -, hs⟩ <;> rw [hs] at he ⊢
  · exact .inl rfl
  · exact absurd he List.not_mem_nil
  · rcases readHeader_report { a with header := a.header.setIfInBounds 8 value.toNat } with
      hw | hr | hgps
    · rw [hw] at he
      exact absurd he List.not_mem_nil
    · exact .inl hr
    · exact .inr hgps
  · exact absurd he List.not_mem_nil
  · rcases endCycle_report (a.closing id.toNat value.toNat) with hw | hr
    · have he' : e.message ∈ (a.closing id.toNat value.toNat).endCycle.warnings := he
      rw [hw] at he'
      exact absurd he' List.not_mem_nil
    · exact .inl hr

theorem gps_refusal_keeps_report :
    let a := initial.run (Ids.header.zip [7, 8, 9, 6, 5, 24, 0x42, 38])
    a.feed 0x56 0x47 = .ok (a.step 0x56 0x47) ∧
      (StatusError.unknownGps 0x42).message ∈ (a.step 0x56 0x47).warnings ∧
      ((a.step 0x56 0x47).state.report = a.report ∨
        ∃ code dt, Gps.ofCode? code = none ∧
          (a.step 0x56 0x47).warnings = [(StatusError.unknownGps code).message] ∧
          (a.step 0x56 0x47).state.report = { a.report with datetime := some dt }) := by
  intro a
  have hfeed := feed_bytes a (show 0x56 < 256 by decide) (show 0x47 < 256 by decide)
  have hwarn : (StatusError.unknownGps 0x42).message ∈ (a.step 0x56 0x47).warnings := by
    decide +kernel
  exact ⟨hfeed, hwarn, feed_refusal_keeps_report a _ _ _ hfeed _ hwarn⟩

/-- The same header changes the report it is fed to: the date and time it carried are stored
although the header is refused. -/
theorem gps_refusal_stores_date :
    let a := initial.run (Ids.header.zip [7, 8, 9, 6, 5, 24, 0x42, 38])
    (a.step 0x56 0x47).warnings = [(StatusError.unknownGps 0x42).message] ∧
      (a.step 0x56 0x47).state.report.datetime = some 1714979289 ∧ a.report.datetime = none := by
  decide +kernel

end SpinLidar.Status.Accumulator
