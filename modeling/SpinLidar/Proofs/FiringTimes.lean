import SpinLidar.Proofs.Emission
namespace SpinLidar

open Packet Synthesis

namespace Firing

theorem sequences_cover (model : Sensor.Model) :
    model.spec.channelsPerSequence * model.spec.sequencesPerBlock = 32 := by
  cases model <;> decide

theorem modeOf_code (mode : ReturnMode) : modeOf (mode.code : Int) = .ok mode := by
  cases mode <;> rfl

/-- The timing query finds the slot of a sample back from its channel and sequence, for every
channel the decoder can emit: a slot of the upper bank, or of the lower bank on a model with
more than 32 channels. -/
theorem slotOf_sample (model : Sensor.Model) {bank s : Nat} (hs : s < 32)
    (hbank : bank = 0 ∨ bank = 1 ∧ 32 < model.spec.channelCount) :
    slotOf model.spec ((32 * bank + s % model.spec.channelsPerSequence : Nat) : Int)
      ((s / model.spec.channelsPerSequence : Nat) : Int) = .ok s := by
  obtain ⟨hpos, hle, hcc⟩ := channel_bounds model
  have hcover := sequences_cover model
  have hmod : s % model.spec.channelsPerSequence < model.spec.channelsPerSequence :=
    Nat.mod_lt s hpos
  have hchannel : 32 * bank + s % model.spec.channelsPerSequence < model.spec.channelCount := by
    rcases hbank with rfl | ⟨rfl, hlower⟩ <;> omega
  have hseq : s / model.spec.channelsPerSequence < model.spec.sequencesPerBlock := by
    rw [Nat.div_lt_iff_lt_mul hpos, Nat.mul_comm, hcover]
    exact hs
  -- the bank offset of 32 is a whole number of sequences, so the channel keeps the slot's place
  have hslot : (32 * bank + s % model.spec.channelsPerSequence) % model.spec.channelsPerSequence =
      s % model.spec.channelsPerSequence := by
    rw [← hcover, Nat.mul_assoc, Nat.mul_add_mod, Nat.mod_mod]
  have hchannel' : 0 ≤ ((32 * bank + s % model.spec.channelsPerSequence : Nat) : Int) ∧
      ((32 * bank + s % model.spec.channelsPerSequence : Nat) : Int) < model.spec.channelCount := by
    omega
  have hseq' : 0 ≤ ((s / model.spec.channelsPerSequence : Nat) : Int) ∧
      ((s / model.spec.channelsPerSequence : Nat) : Int) < model.spec.sequencesPerBlock :=
    ⟨Int.natCast_nonneg _, by exact_mod_cast hseq⟩
  rw [slotOf, if_neg (not_not_intro hchannel'), if_neg (not_not_intro hseq'), Int.toNat_natCast,
    Int.toNat_natCast, hslot, Nat.div_add_mod']

theorem offsetOf_eq_ok (spec : Sensor.Spec) (mode : ReturnMode) {b r slot : Nat}
    {channel sequence : Int} (hb : b < 12) (hr : 1 ≤ r ∧ r ≤ 2)
    (hslot : slotOf spec channel sequence = .ok slot) :
    offsetOf spec b channel ((r : Int) - 1) sequence mode.code =
      .ok (offset spec mode b slot (r - 1)) := by
  have hblock : 0 ≤ (b : Int) ∧ (b : Int) < Sensor.blocksPerPacket := by
    simp only [Sensor.blocksPerPacket]
    omega
  have hreturn : 0 ≤ (r : Int) - 1 ∧ (r : Int) - 1 < 2 := by omega
  have hindex : ((r : Int) - 1).toNat = r - 1 := by omega
  rw [offsetOf, if_neg (not_not_intro hblock), if_neg (not_not_intro hreturn), hslot, modeOf_code,
    Int.toNat_natCast, hindex]
  rfl

theorem offsetOf_group_eq (spec : Sensor.Spec) (mode : ReturnMode) {b b' : Nat} (hb : b < 12)
    (hb' : b' < 12)
    (hgroup : b / ReturnMode.blocksPerGroup spec mode = b' / ReturnMode.blocksPerGroup spec mode)
    (channel returnIndex sequence : Int) :
    offsetOf spec b channel returnIndex sequence mode.code =
      offsetOf spec b' channel returnIndex sequence mode.code := by
  have hblock : ∀ c : Nat, c < 12 → 0 ≤ (c : Int) ∧ (c : Int) < Sensor.blocksPerPacket := by
    intro c hc
    simp only [Sensor.blocksPerPacket]
    omega
  have hoffset : ∀ slot r, offset spec mode b slot r = offset spec mode b' slot r := by
    intro slot r
    simp only [offset, group, hgroup]
  simp [offsetOf, hblock b hb, hblock b' hb', modeOf_code, hoffset]

end Firing

namespace Synthesis

theorem returnIndex_choiceAt (spec : Sensor.Spec) (mode : ReturnMode) (raw : Nat → Nat) (b : Nat) :
    1 ≤ (choiceAt spec mode raw b).returnIndex ∧ (choiceAt spec mode raw b).returnIndex ≤ 2 := by
  cases mode with
  | dual =>
      by_cases hstrong : spec.banks ≤ b % ReturnMode.blocksPerGroup spec .dual
      · simp [choiceAt, hstrong, Choice.dualPair]
      · simp only [choiceAt, if_neg hstrong, Choice.dualPair]
        split <;> simp
  | strongest | last => simp [choiceAt, Choice.single]

/-- The rows of a decoded packet, matched with their samples, are stamped with the packet time
plus the offset the timing query gives for the row's block, channel, return index and the
sample's sequence; and that offset is the same for every block of one firing group. -/
theorem decode_times_follow_offsets (d : Decoder) (buf : ByteArray) (p : Packet)
    (pts : List Point) (hp : parse d.spec buf = .ok p) (h : d.decode buf = .ok pts) :
    List.Forall₂ (fun (r : Point) (x : Nat × Nat) =>
        ∃ o, Firing.offsetOf d.spec x.1 r.channel ((r.returnIndex : Int) - 1)
            (x.2 / d.spec.channelsPerSequence : Nat) p.footer.returnMode.code = .ok o ∧
          r.timestamp = Float.ofNat p.footer.timestamp + o)
      pts (keptSamples d.spec p.footer.returnMode buf) ∧
    ∀ (mode : ReturnMode) (b b' : Nat) (channel returnIndex sequence : Int), b < 12 → b' < 12 →
      b / ReturnMode.blocksPerGroup d.spec mode = b' / ReturnMode.blocksPerGroup d.spec mode →
      Firing.offsetOf d.spec b channel returnIndex sequence mode.code =
        Firing.offsetOf d.spec b' channel returnIndex sequence mode.code := by
  refine ⟨?_, fun mode b b' channel returnIndex sequence hb hb' hgroup =>
    Firing.offsetOf_group_eq d.spec mode hb hb' hgroup channel returnIndex sequence⟩
  obtain ⟨-, hflags, mode, -, rfl⟩ := parse_eq_ok.1 hp
  have hcheck := (checkChannels_eq_ok d.model d.channels_eq buf).1
    (points_eq_ok.1 (points_eq_of_decode hp h)).1
  -- a lower-bank block passed the channel check only on a model of more than 32 channels
  have hbank : ∀ b < 12, bankAt buf b = 0 ∨ bankAt buf b = 1 ∧ 32 < d.spec.channelCount := by
    intro b hb
    rcases hflags b hb with hflag | hflag
    · exact .inl (by simp [bankAt, hflag])
    · refine .inr ⟨by simp [bankAt, hflag], Nat.lt_of_not_le fun hle => ?_⟩
      exact hcheck ⟨hle, b, hb, hflag⟩
  refine rows_forall₂ hp h fun b s hx => ?_
  obtain ⟨hb, hs, -⟩ := (mem_keptSamples d.model mode buf b s).1 hx
  simp only [point, sampleAt, readBlocks_getD hb, channelOf_read _ s (hflags b hb)]
  exact ⟨_, Firing.offsetOf_eq_ok d.spec mode hb (returnIndex_choiceAt _ _ _ _)
    (Firing.slotOf_sample d.model hs (hbank b hb)), rfl⟩

theorem mixedBytes_times_follow_offsets :
    parse Sensor.Model.hdl64e.spec mixedBytes = .ok mixedPacket ∧
      (Decoder.flatDecoder .hdl64e).decode mixedBytes = .ok mixedRows ∧
      List.Forall₂ (fun (r : Point) (x : Nat × Nat) =>
          ∃ o, Firing.offsetOf Sensor.Model.hdl64e.spec x.1 r.channel ((r.returnIndex : Int) - 1)
              (x.2 / Sensor.Model.hdl64e.spec.channelsPerSequence : Nat) ReturnMode.dual.code =
                .ok o ∧
            r.timestamp = Float.ofNat mixedPacket.footer.timestamp + o)
        mixedRows (keptSamples Sensor.Model.hdl64e.spec .dual mixedBytes) ∧
      ∀ (mode : ReturnMode) (b b' : Nat) (channel returnIndex sequence : Int), b < 12 → b' < 12 →
        b / ReturnMode.blocksPerGroup Sensor.Model.hdl64e.spec mode =
          b' / ReturnMode.blocksPerGroup Sensor.Model.hdl64e.spec mode →
        Firing.offsetOf Sensor.Model.hdl64e.spec b channel returnIndex sequence mode.code =
          Firing.offsetOf Sensor.Model.hdl64e.spec b' channel returnIndex sequence mode.code :=
  ⟨parse_mixedBytes, decode_mixedBytes, decode_times_follow_offsets (Decoder.flatDecoder .hdl64e)
    mixedBytes _ _ parse_mixedBytes decode_mixedBytes⟩

end Synthesis

end SpinLidar
