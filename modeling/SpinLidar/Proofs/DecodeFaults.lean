import SpinLidar.Proofs.PacketLayout
import SpinLidar.Decoder
namespace SpinLidar

open Packet

namespace Decoder

theorem decode_eq_ok {d : Decoder} {buf : ByteArray} {pts : List Point} :
    d.decode buf = .ok pts ↔
      ∃ p, parse d.spec buf = .ok p ∧ p.points d.spec d.calibration d.byteCast = .ok pts := by
  simp only [decode, decodeParsed]
  cases parse d.spec buf with
  | error e => simp [Except.map, bind, Except.bind]
  | ok p =>
      cases h : p.points d.spec d.calibration d.byteCast <;>
        simp [h, Except.map, bind, Except.bind, pure, Except.pure]

theorem decode_eq_error {d : Decoder} {buf : ByteArray} {e : DecodeError} :
    d.decode buf = .error e ↔
      parse d.spec buf = .error e ∨
        ∃ p, parse d.spec buf = .ok p ∧ p.points d.spec d.calibration d.byteCast = .error e := by
  simp only [decode, decodeParsed]
  cases parse d.spec buf with
  | error e => simp [Except.map, bind, Except.bind]
  | ok p =>
      cases h : p.points d.spec d.calibration d.byteCast <;>
        simp [h, Except.map, bind, Except.bind, pure, Except.pure]

end Decoder

namespace Synthesis

def kept (spec : Sensor.Spec) (cal : Calibration) (cast : Geometry.ByteCast) (p : Packet) :
    List Point :=
  ((samples spec p).filter (·.choice.keep)).map (point spec cal cast p (groupDeltas spec p))

section Points

variable {spec : Sensor.Spec} {cal : Calibration} {cast : Geometry.ByteCast} {p : Packet}

theorem points_eq_ok {pts : List Point} :
    p.points spec cal cast = .ok pts ↔
      cal.checkChannels (blockChannels spec p.blocks) = .ok () ∧ pts = kept spec cal cast p := by
  simp only [Packet.points, kept]
  cases cal.checkChannels (blockChannels spec p.blocks) <;>
    simp [bind, Except.bind, pure, Except.pure, eq_comm]

theorem points_eq_error {e : DecodeError} :
    p.points spec cal cast = .error e ↔ cal.checkChannels (blockChannels spec p.blocks) = .error e := by
  simp only [Packet.points]
  cases cal.checkChannels (blockChannels spec p.blocks) <;> simp [bind, Except.bind, pure, Except.pure]

end Points

/-- The channel layout every supported model keeps: a firing sequence fits the channels, and
either the model has no channel from 32 on or all its lower-bank channels fit. -/
theorem channel_bounds (model : Sensor.Model) :
    0 < model.spec.channelsPerSequence ∧
      model.spec.channelsPerSequence ≤ model.spec.channelCount ∧
      (model.spec.channelCount ≤ 32 ∨
        32 + model.spec.channelsPerSequence ≤ model.spec.channelCount) := by
  cases model <;> decide

section Channels

variable {spec : Sensor.Spec} {n : Nat}

theorem find?_slotChannels_upper (hpos : 0 < spec.channelsPerSequence)
    (hn : spec.channelsPerSequence ≤ n) :
    (Firing.slotChannels spec 0).find? (fun ch => decide (ch < 0 ∨ (n : Int) ≤ ch)) = none := by
  simp only [Firing.slotChannels, List.find?_eq_none, List.mem_map, List.mem_range]
  rintro _ ⟨s, -, rfl⟩
  have := Nat.mod_lt s hpos
  simp only [decide_eq_true_eq, not_or]
  omega

theorem find?_slotChannels_lower (hpos : 0 < spec.channelsPerSequence)
    (hn : n ≤ 32 ∨ 32 + spec.channelsPerSequence ≤ n) :
    (Firing.slotChannels spec 1).find? (fun ch => decide (ch < 0 ∨ (n : Int) ≤ ch)) =
      if n ≤ 32 then some 32 else none := by
  split
  · rw [Firing.slotChannels, Sensor.samplesPerBlock, List.range_succ_eq_map, List.map_cons,
      List.find?_cons_of_pos]
    · simp [Sensor.bankChannelOffset]
    · simp [Sensor.bankChannelOffset]
      omega
  · simp only [Firing.slotChannels, List.find?_eq_none, List.mem_map, List.mem_range]
    rintro _ ⟨s, -, rfl⟩
    have := Nat.mod_lt s hpos
    simp [Sensor.bankChannelOffset]
    omega

variable (hpos : 0 < spec.channelsPerSequence) (hn : spec.channelsPerSequence ≤ n)
  (hlower : n ≤ 32 ∨ 32 + spec.channelsPerSequence ≤ n)
include hpos hn hlower

theorem find?_blockChannels (buf : ByteArray) :
    (blockChannels spec (readBlocks buf)).find? (fun ch => decide (ch < 0 ∨ (n : Int) ≤ ch)) =
      (List.range 12).findSome? fun i =>
        if flagAt buf i = 0xDDFF ∧ n ≤ 32 then some 32 else none := by
  rw [blockChannels, readBlocks_toList, List.flatMap_map, List.find?_flatMap]
  congr 1
  funext i
  by_cases hl : flagAt buf i = 0xDDFF
  · have hbank : (if (Block.read buf i).flag = lowerBankFlag then (1 : Int) else 0) = 1 := by
      simp [hl, lowerBankFlag]
    rw [hbank, find?_slotChannels_lower hpos hlower]
    simp [hl]
  · have hbank : (if (Block.read buf i).flag = lowerBankFlag then (1 : Int) else 0) = 0 := by
      simp [hl, lowerBankFlag]
    rw [hbank, find?_slotChannels_upper hpos hn]
    simp [hl]

theorem find?_blockChannels_eq_none (buf : ByteArray) :
    (blockChannels spec (readBlocks buf)).find? (fun ch => decide (ch < 0 ∨ (n : Int) ≤ ch)) =
        none ↔ ¬(n ≤ 32 ∧ ∃ i < 12, flagAt buf i = 0xDDFF) := by
  rw [find?_blockChannels hpos hn hlower]
  simp only [List.findSome?_eq_none_iff, List.mem_range, ite_eq_right_iff, reduceCtorEq,
    imp_false, not_and, not_exists]
  constructor
  · intro h hn32 i hi hflag
    exact h i hi hflag hn32
  · intro h i hi hflag hn32
    exact h hn32 i hi hflag

theorem find?_blockChannels_eq_some (buf : ByteArray) (ch : Int) :
    (blockChannels spec (readBlocks buf)).find? (fun ch => decide (ch < 0 ∨ (n : Int) ≤ ch)) =
        some ch ↔ ch = 32 ∧ n ≤ 32 ∧ ∃ i < 12, flagAt buf i = 0xDDFF := by
  rw [find?_blockChannels hpos hn hlower]
  constructor
  · intro h
    obtain ⟨i, hi, hsome⟩ := List.exists_of_findSome?_eq_some h
    by_cases hc : flagAt buf i = 0xDDFF ∧ n ≤ 32
    · simp only [if_pos hc, Option.some.injEq] at hsome
      exact ⟨hsome.symm, hc.2, i, List.mem_range.1 hi, hc.1⟩
    · simp [if_neg hc] at hsome
  · rintro ⟨rfl, hn32, i, hi, hflag⟩
    -- the scan finds something, and all it can find is channel 32
    cases h : (List.range 12).findSome? fun i =>
        if flagAt buf i = 0xDDFF ∧ n ≤ 32 then some (32 : Int) else none with
    | none =>
        rw [List.findSome?_eq_none_iff] at h
        simpa [hflag, hn32] using h i (List.mem_range.2 hi)
    | some v =>
        obtain ⟨j, -, hj⟩ := List.exists_of_findSome?_eq_some h
        split at hj <;> simp_all

end Channels

theorem checkChannels_eq_ok (model : Sensor.Model) {cal : Calibration}
    (hcal : cal.channelCount = model.spec.channelCount) (buf : ByteArray) :
    cal.checkChannels (blockChannels model.spec (readBlocks buf)) = .ok () ↔
      ¬(model.spec.channelCount ≤ 32 ∧ ∃ i < 12, flagAt buf i = 0xDDFF) := by
  obtain ⟨hpos, hn, hlower⟩ := channel_bounds model
  have hsize : cal.entries.size = model.spec.channelCount := hcal
  rw [← find?_blockChannels_eq_none hpos hn hlower, Calibration.checkChannels, hsize]
  cases List.find? _ (blockChannels model.spec (readBlocks buf)) <;> simp

theorem checkChannels_eq_error (model : Sensor.Model) {cal : Calibration}
    (hcal : cal.channelCount = model.spec.channelCount) (buf : ByteArray) (e : DecodeError) :
    cal.checkChannels (blockChannels model.spec (readBlocks buf)) = .error e ↔
      (model.spec.channelCount ≤ 32 ∧ ∃ i < 12, flagAt buf i = 0xDDFF) ∧
        e = .channelOutOfRange 32 model.spec.channelCount := by
  obtain ⟨hpos, hn, hlower⟩ := channel_bounds model
  have hsize : cal.entries.size = model.spec.channelCount := hcal
  rw [Calibration.checkChannels, hsize]
  cases h : List.find? _ (blockChannels model.spec (readBlocks buf)) with
  | none =>
      have := (find?_blockChannels_eq_none hpos hn hlower buf).1 h
      simp [this]
  | some ch =>
      obtain ⟨rfl, hcover⟩ := (find?_blockChannels_eq_some hpos hn hlower buf ch).1 h
      simp only [Except.error.injEq]
      exact ⟨fun he => ⟨hcover, he.symm⟩, fun ⟨_, he⟩ => he.symm⟩

end Synthesis

namespace Decoder

@[simp] theorem spec_model (model : Sensor.Model) : model.spec.model = model := by
  cases model <;> rfl

theorem footerHasReturnMode_iff (model : Sensor.Model) :
    model.spec.footerHasReturnMode = true ↔ model ≠ .hdl64e := by
  cases model <;> decide

theorem ofCode?_ne_none_iff (v : Nat) :
    ReturnMode.ofCode? v ≠ none ↔ v ∈ [0x37, 0x38, 0x39] := by
  rw [Ne, ofCode?_eq_none]
  simp only [List.mem_cons, List.not_mem_nil, or_false]
  omega

theorem wireMode_eq_error (model : Sensor.Model) (buf : ByteArray) (e : DecodeError) :
    wireMode model.spec buf = .error e ↔
      model ≠ .hdl64e ∧ byteAt buf 1204 ∉ [0x37, 0x38, 0x39] ∧
        e = .unknownReturnMode (byteAt buf 1204) := by
  by_cases hm : model = .hdl64e
  · subst hm
    simp [wireMode_hdl64e]
  · have hf := (footerHasReturnMode_iff model).2 hm
    rw [wireMode, if_pos hf, resolve_eq_error hf (supportsDual_spec model), ← ofCode?_ne_none_iff, Classical.not_not]
    simp [hm, footerOffset]

theorem exists_wireMode_eq_ok (model : Sensor.Model) (buf : ByteArray) :
    (∃ m, wireMode model.spec buf = .ok m) ↔
      (model ≠ .hdl64e → byteAt buf 1204 ∈ [0x37, 0x38, 0x39]) := by
  by_cases hm : model = .hdl64e
  · subst hm
    simp [wireMode_hdl64e]
  · have hf := (footerHasReturnMode_iff model).2 hm
    simp only [wireMode, if_pos hf, ReturnMode.resolve, ← ofCode?_ne_none_iff, footerOffset]
    cases ReturnMode.ofCode? (byteAt buf 1204 : Int) <;> simp [hm, supportsDual_spec]

/-- The fault a decoder of the model answers a buffer with: one of its four checks fails, each
only once the checks before it have passed. -/
inductive Refusal (model : Sensor.Model) (buf : ByteArray) : DecodeError → Prop
  /-- The buffer is not 1206 bytes long. -/
  | wrongSize : buf.size ≠ 1206 → Refusal model buf (.wrongSize model.name 1206 buf.size)
  /-- Block `i` is the first whose flag names no bank. -/
  | unknownFlag {i : Nat} : buf.size = 1206 → i < 12 →
      ¬(flagAt buf i = 0xEEFF ∨ flagAt buf i = 0xDDFF) →
      (∀ j < i, flagAt buf j = 0xEEFF ∨ flagAt buf j = 0xDDFF) →
      Refusal model buf (.unknownFlag i (flagAt buf i))
  /-- A model that reports its mode in the footer finds none of the three modes there. -/
  | unknownReturnMode : buf.size = 1206 → BankFlags buf → model ≠ .hdl64e →
      byteAt buf 1204 ∉ [0x37, 0x38, 0x39] →
      Refusal model buf (.unknownReturnMode (byteAt buf 1204))
  /-- A model of at most 32 channels meets a lower-bank block. -/
  | lowerBank : buf.size = 1206 → BankFlags buf →
      (model ≠ .hdl64e → byteAt buf 1204 ∈ [0x37, 0x38, 0x39]) →
      model.spec.channelCount ≤ 32 → (∃ i < 12, flagAt buf i = 0xDDFF) →
      Refusal model buf (.channelOutOfRange 32 model.spec.channelCount)

section Verdict

variable (d : Decoder) (buf : ByteArray)

theorem refusal_of_decode_eq_error {e : DecodeError}
    (h : d.decode buf = .error e) : Refusal d.model buf e := by
  rcases decode_eq_error.1 h with hparse | ⟨p, hparse, hpoints⟩
  · rcases parse_eq_error.1 hparse with ⟨hs, rfl⟩ | ⟨hs, i, flag, hflag, rfl⟩ | ⟨hs, hb, hmode⟩
    · simpa [Decoder.spec] using @Refusal.wrongSize d.model buf hs
    · obtain ⟨hi, rfl, hbad, hbefore⟩ := (firstUnknownFlag_eq_some buf i flag).1 hflag
      exact .unknownFlag hs hi hbad hbefore
    · obtain ⟨hm, hbyte, rfl⟩ := (wireMode_eq_error d.model buf e).1 hmode
      exact .unknownReturnMode hs hb hm hbyte
  · obtain ⟨hs, hb, mode, hmode, rfl⟩ := parse_eq_ok.1 hparse
    obtain ⟨⟨hcc, hlow⟩, rfl⟩ := (Synthesis.checkChannels_eq_error d.model d.channels_eq buf e).1
      (Synthesis.points_eq_error.1 hpoints)
    exact .lowerBank hs hb ((exists_wireMode_eq_ok d.model buf).1 ⟨mode, hmode⟩) hcc hlow

theorem decode_eq_error_of_refusal {e : DecodeError} (h : Refusal d.model buf e) :
    d.decode buf = .error e := by
  apply decode_eq_error.2
  cases h with
  | wrongSize hs => exact .inl (parse_eq_error.2 (.inl ⟨hs, by simp [Decoder.spec]⟩))
  | unknownFlag hs hi hbad hbefore =>
      exact .inl (parse_eq_error.2 (.inr (.inl ⟨hs, _, _,
        (firstUnknownFlag_eq_some buf _ _).2 ⟨hi, rfl, hbad, hbefore⟩, rfl⟩)))
  | unknownReturnMode hs hb hm hbyte =>
      exact .inl (parse_eq_error.2 (.inr (.inr ⟨hs, hb,
        (wireMode_eq_error d.model buf _).2 ⟨hm, hbyte, rfl⟩⟩)))
  | lowerBank hs hb hbyte hcc hlow =>
      obtain ⟨mode, hmode⟩ := (exists_wireMode_eq_ok d.model buf).2 hbyte
      exact .inr ⟨_, parse_eq_ok.2 ⟨hs, hb, mode, hmode, rfl⟩, Synthesis.points_eq_error.2
        ((Synthesis.checkChannels_eq_error d.model d.channels_eq buf _).2 ⟨⟨hcc, hlow⟩, rfl⟩)⟩

theorem exists_decode_eq_ok_iff :
    (∃ pts, d.decode buf = .ok pts) ↔
      buf.size = 1206 ∧ BankFlags buf ∧
        (d.model ≠ .hdl64e → byteAt buf 1204 ∈ [0x37, 0x38, 0x39]) ∧
        (d.spec.channelCount ≤ 32 → ∀ i < 12, flagAt buf i ≠ 0xDDFF) := by
  have hcover : (d.spec.channelCount ≤ 32 → ∀ i < 12, flagAt buf i ≠ 0xDDFF) ↔
      ¬(d.model.spec.channelCount ≤ 32 ∧ ∃ i < 12, flagAt buf i = 0xDDFF) := by
    simp [Decoder.spec]
  rw [hcover, ← Synthesis.checkChannels_eq_ok d.model d.channels_eq buf,
    ← exists_wireMode_eq_ok d.model buf]
  constructor
  · rintro ⟨pts, h⟩
    obtain ⟨p, hparse, hpoints⟩ := decode_eq_ok.1 h
    obtain ⟨hs, hb, mode, hmode, rfl⟩ := parse_eq_ok.1 hparse
    exact ⟨hs, hb, ⟨mode, hmode⟩, (Synthesis.points_eq_ok.1 hpoints).1⟩
  · rintro ⟨hs, hb, ⟨mode, hmode⟩, hchan⟩
    exact ⟨_, decode_eq_ok.2 ⟨_, parse_eq_ok.2 ⟨hs, hb, mode, hmode, rfl⟩,
      Synthesis.points_eq_ok.2 ⟨hchan, rfl⟩⟩⟩

end Verdict

/-- A decoder refuses a buffer exactly for the first of its four checks that fails (size, block
flags, footer mode, lower-bank channels), and decodes every buffer that passes them all. -/
theorem decode_refusal_iff (d : Decoder) (buf : ByteArray) :
    (∀ e, d.decode buf = .error e ↔ Refusal d.model buf e) ∧
      ((∃ pts, d.decode buf = .ok pts) ↔
        buf.size = 1206 ∧ BankFlags buf ∧
          (d.model ≠ .hdl64e → byteAt buf 1204 ∈ [0x37, 0x38, 0x39]) ∧
          (d.spec.channelCount ≤ 32 → ∀ i < 12, flagAt buf i ≠ 0xDDFF)) :=
  ⟨fun _ => ⟨refusal_of_decode_eq_error d buf, decode_eq_error_of_refusal d buf⟩,
    exists_decode_eq_ok_iff d buf⟩

def flatCalibration (n : Nat) (hn : 0 < n) : Calibration :=
  ⟨Array.replicate n (Entry.ofVertical 0.0), Calibration.defaultResolution, "", by simpa using hn,
    Calibration.defaultResolution_pos⟩

def flatDecoder (model : Sensor.Model) : Decoder :=
  ⟨model, flatCalibration model.spec.channelCount
      (Nat.lt_of_lt_of_le (Synthesis.channel_bounds model).1 (Synthesis.channel_bounds model).2.1),
    by simp [Calibration.channelCount, flatCalibration], .x86⟩

theorem decode_refusal_iff_vlp16 :
    (∀ e, (flatDecoder .vlp16).decode dualBytes = .error e ↔ Refusal .vlp16 dualBytes e) ∧
      ((∃ pts, (flatDecoder .vlp16).decode dualBytes = .ok pts) ↔
        dualBytes.size = 1206 ∧ BankFlags dualBytes ∧
          (Sensor.Model.vlp16 ≠ .hdl64e → byteAt dualBytes 1204 ∈ [0x37, 0x38, 0x39]) ∧
          (Sensor.Model.vlp16.spec.channelCount ≤ 32 → ∀ i < 12, flagAt dualBytes i ≠ 0xDDFF)) :=
  decode_refusal_iff (flatDecoder .vlp16) dualBytes

end Decoder

end SpinLidar
