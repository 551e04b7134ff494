import SpinLidar.Proofs.DecodeFaults
import Mathlib.Data.List.Basic
import Mathlib.Data.List.Forall2
import Mathlib.Data.List.Nodup
import Mathlib.Tactic.Tauto
namespace SpinLidar.Synthesis

open Packet

def emissionOrder (spec : Sensor.Spec) (mode : ReturnMode) : List (Nat × Nat) :=
  let members := ReturnMode.groupMembers spec mode
  (List.range (12 / members.length)).flatMap fun g =>
    (List.range 32).flatMap fun s =>
      members.map fun m => (g * ReturnMode.blocksPerGroup spec mode + m, s)

def allSamples : List (Nat × Nat) :=
  (List.range 12).flatMap fun b => (List.range 32).map fun s => (b, s)

theorem mem_groupMembers {spec : Sensor.Spec} {mode : ReturnMode} {m : Nat} :
    m ∈ ReturnMode.groupMembers spec mode ↔ m < ReturnMode.blocksPerGroup spec mode := by
  cases mode with
  | dual =>
      simp only [ReturnMode.groupMembers, List.mem_flatMap, List.mem_range, List.mem_cons,
        List.not_mem_nil, or_false, ReturnMode.blocksPerGroup, ReturnMode.returnsPerFiring]
      constructor
      · rintro ⟨k, hk, rfl | rfl⟩ <;> omega
      · intro hm
        by_cases hlow : m < spec.banks
        · exact ⟨m, hlow, .inr rfl⟩
        · exact ⟨m - spec.banks, by omega, .inl (by omega)⟩
  | strongest | last =>
      simp [ReturnMode.groupMembers, ReturnMode.blocksPerGroup, ReturnMode.returnsPerFiring]

theorem length_groupMembers (spec : Sensor.Spec) (mode : ReturnMode) :
    (ReturnMode.groupMembers spec mode).length = ReturnMode.blocksPerGroup spec mode := by
  cases mode <;>
    simp [ReturnMode.groupMembers, ReturnMode.blocksPerGroup, ReturnMode.returnsPerFiring,
      List.length_flatMap]

theorem group_div {P g m : Nat} (hm : m < P) : (g * P + m) / P = g := by
  rw [Nat.add_comm, Nat.add_mul_div_right m g (by omega), Nat.div_eq_of_lt hm, Nat.zero_add]

theorem groups_tile (model : Sensor.Model) (mode : ReturnMode) :
    12 / ReturnMode.blocksPerGroup model.spec mode * ReturnMode.blocksPerGroup model.spec mode =
      12 := by
  cases model <;> cases mode <;> decide

theorem mem_emissionOrder (model : Sensor.Model) (mode : ReturnMode) (b s : Nat) :
    (b, s) ∈ emissionOrder model.spec mode ↔ b < 12 ∧ s < 32 := by
  have htile := groups_tile model mode
  generalize hP : ReturnMode.blocksPerGroup model.spec mode = P at htile
  have hpos : 0 < P := Nat.pos_of_ne_zero fun h => by simp [h] at htile
  simp only [emissionOrder, length_groupMembers, hP, List.mem_flatMap, List.mem_range,
    List.mem_map, mem_groupMembers, Prod.mk.injEq]
  constructor
  · rintro ⟨g, hg, s', hs', m, hm, rfl, rfl⟩
    refine ⟨?_, hs'⟩
    -- the group's last block is below the next group's first, which is at most 12
    calc g * P + m < (g + 1) * P := by rw [Nat.succ_mul]; omega
      _ ≤ 12 / P * P := Nat.mul_le_mul_right P hg
      _ = 12 := htile
  · rintro ⟨hb, hs⟩
    refine ⟨b / P, ?_, s, hs, b % P, Nat.mod_lt b hpos, ?_, rfl⟩
    · rw [Nat.div_lt_iff_lt_mul hpos, htile]
      exact hb
    · rw [Nat.mul_comm, Nat.div_add_mod]

theorem mem_allSamples (b s : Nat) : (b, s) ∈ allSamples ↔ b < 12 ∧ s < 32 := by
  simp [allSamples]

theorem nodup_flatMap_of_key {α β : Type} {l : List α} {f : α → List β} (key : β → α)
    (hl : l.Nodup) (hf : ∀ a ∈ l, (f a).Nodup) (hk : ∀ a ∈ l, ∀ y ∈ f a, key y = a) :
    (l.flatMap f).Nodup := by
  rw [List.nodup_flatMap]
  refine ⟨hf, hl.imp_of_mem fun ha hb hab y hya hyb => ?_⟩
  exact hab ((hk _ ha y hya).symm.trans (hk _ hb y hyb))

theorem nodup_groupMembers (spec : Sensor.Spec) (mode : ReturnMode) :
    (ReturnMode.groupMembers spec mode).Nodup := by
  cases mode with
  | dual =>
      refine nodup_flatMap_of_key (· % spec.banks) List.nodup_range ?_ ?_
      · intro k hk
        have hk : k < spec.banks := List.mem_range.1 hk
        simp only [List.nodup_cons, List.mem_cons, List.not_mem_nil, or_false,
          List.nodup_nil, not_false_eq_true, and_true]
        omega
      · intro k hk y hy
        have hk : k < spec.banks := List.mem_range.1 hk
        simp only [List.mem_cons, List.not_mem_nil, or_false] at hy
        rcases hy with rfl | rfl
        · simp [Nat.mod_eq_of_lt hk]
        · exact Nat.mod_eq_of_lt hk
  | strongest | last => exact List.nodup_range

theorem nodup_emissionOrder (spec : Sensor.Spec) (mode : ReturnMode) :
    (emissionOrder spec mode).Nodup := by
  refine nodup_flatMap_of_key (fun x => x.1 / ReturnMode.blocksPerGroup spec mode)
    List.nodup_range (fun g _ => ?_) ?_
  · refine nodup_flatMap_of_key Prod.snd List.nodup_range (fun s _ => ?_) ?_
    · refine (nodup_groupMembers spec mode).map fun m m' h => ?_
      simpa using h
    · intro s _ y hy
      obtain ⟨m, -, rfl⟩ := List.mem_map.1 hy
      rfl
  · intro g _ y hy
    obtain ⟨s, -, hy⟩ := List.mem_flatMap.1 hy
    obtain ⟨m, hm, rfl⟩ := List.mem_map.1 hy
    exact group_div (mem_groupMembers.1 hm)

theorem nodup_allSamples : allSamples.Nodup :=
  nodup_flatMap_of_key Prod.fst List.nodup_range
    (fun _ _ => List.nodup_range.map fun _ _ h => by simpa using h)
    (fun _ _ y hy => by obtain ⟨s, -, rfl⟩ := List.mem_map.1 hy; rfl)

theorem emissionOrder_perm (model : Sensor.Model) (mode : ReturnMode) :
    (emissionOrder model.spec mode).Perm allSamples :=
  (List.perm_ext_iff_of_nodup (nodup_emissionOrder _ _) nodup_allSamples).2 fun ⟨b, s⟩ => by
    rw [mem_emissionOrder, mem_allSamples]

/-- The return choice for block `b` of a slot whose blocks measured `raw`: in dual mode from its
own distance and that of its bank's other block of the firing (the last-return block sits
`banks` places before the strongest), otherwise from its own. -/
def choiceAt (spec : Sensor.Spec) (mode : ReturnMode) (raw : Nat → Nat) (b : Nat) : Choice :=
  match mode with
  | .dual =>
    if spec.banks ≤ b % ReturnMode.blocksPerGroup spec .dual then
      (Choice.dualPair (raw b) (raw (b - spec.banks))).1
    else (Choice.dualPair (raw (b + spec.banks)) (raw b)).2
  | mode => Choice.single mode (raw b)

theorem pairs_flatMap (f g : Nat → Nat) (ks : List Nat) :
    Choice.pairs (ks.flatMap fun k => [f k, g k]) = ks.map fun k => (f k, g k) := by
  induction ks with
  | nil => rfl
  | cons k ks ih => simp [Choice.pairs, ih]

theorem zip_flatMap_pairs {α β : Type} (a b : Nat → α) (c d : Nat → β) (ks : List Nat) :
    (ks.flatMap fun k => [a k, b k]).zip (ks.flatMap fun k => [c k, d k]) =
      ks.flatMap fun k => [(a k, c k), (b k, d k)] := by
  induction ks with
  | nil => rfl
  | cons k ks ih => simp [ih]

theorem zip_map_self {α β : Type} (l : List α) (f : α → β) :
    l.zip (l.map f) = l.map fun a => (a, f a) := by
  induction l with
  | nil => rfl
  | cons a l ih => simp [ih]

/-- Within one slot of firing group `g`, the choices made for the group's members in order are
the per-sample choices. In dual mode the members come as (strongest, last) per bank, and each
pair is decided together. -/
theorem zip_ofMembers (spec : Sensor.Spec) (mode : ReturnMode) (raw : Nat → Nat) (g : Nat) :
    let bs := (ReturnMode.groupMembers spec mode).map (g * ReturnMode.blocksPerGroup spec mode + ·)
    bs.zip (Choice.ofMembers mode (bs.map raw)) = bs.map fun b => (b, choiceAt spec mode raw b) := by
  intro bs
  cases mode with
  | dual =>
      simp only [bs, ReturnMode.groupMembers, List.map_flatMap, List.map_cons, List.map_nil,
        Choice.ofMembers, pairs_flatMap, List.flatMap_map]
      rw [zip_flatMap_pairs]
      apply List.flatMap_congr
      intro k hk
      have hk : k < spec.banks := List.mem_range.1 hk
      generalize hP : ReturnMode.blocksPerGroup spec .dual = P
      have hP2 : P = spec.banks * 2 := hP.symm
      have hS : (g * P + (spec.banks + k)) % P = spec.banks + k := Nat.mul_add_mod_of_lt (by omega)
      have hL : (g * P + k) % P = k := Nat.mul_add_mod_of_lt (by omega)
      have hpair : g * P + (spec.banks + k) - spec.banks = g * P + k := by omega
      have hpair' : g * P + k + spec.banks = g * P + (spec.banks + k) := by omega
      have hlast : ¬spec.banks ≤ k := by omega
      simp [choiceAt, hP, hS, hL, hpair, hpair', hlast]
  | strongest =>
      simp only [Choice.ofMembers, List.map_map, zip_map_self]
      rfl
  | last =>
      simp only [Choice.ofMembers, List.map_map, zip_map_self]
      rfl

theorem keep_choiceAt (spec : Sensor.Spec) (mode : ReturnMode) (raw : Nat → Nat) (b : Nat) :
    (choiceAt spec mode raw b).keep = true ↔
      raw b ≠ 0 ∧ ¬(mode = .dual ∧ spec.banks ≤ b % ReturnMode.blocksPerGroup spec .dual ∧
        raw (b - spec.banks) = raw b) := by
  cases mode with
  | dual =>
      by_cases hstrong : spec.banks ≤ b % ReturnMode.blocksPerGroup spec .dual
      · simp only [choiceAt, if_pos hstrong, Choice.dualPair]
        by_cases h0 : raw b = 0
        · simp [h0]
        · simp [hstrong]
          omega
      · simp [choiceAt, Choice.dualPair, hstrong]
  | strongest | last => simp [choiceAt, Choice.single]

def sampleAt (spec : Sensor.Spec) (p : Packet) (b s : Nat) : Sample :=
  let blk := p.blocks.getD b default
  ⟨b / ReturnMode.blocksPerGroup spec p.footer.returnMode, s, b, channelOf spec blk s,
    blk.distances.getD s 0, blk.reflectivities.getD s 0,
    choiceAt spec p.footer.returnMode (fun b => (p.blocks.getD b default).distances.getD s 0) b⟩

theorem samples_eq (spec : Sensor.Spec) (p : Packet) :
    samples spec p =
      (emissionOrder spec p.footer.returnMode).map fun x => sampleAt spec p x.1 x.2 := by
  unfold samples emissionOrder groupBlocks
  simp only [Sensor.blocksPerPacket, Sensor.samplesPerBlock]
  rw [List.zipIdx_map, zipIdx_range, List.map_map, List.flatMap_map, List.map_flatMap]
  apply List.flatMap_congr
  intro g _
  simp only [Function.comp_apply, Prod.map_apply, id_eq]
  rw [List.map_flatMap]
  apply List.flatMap_congr
  intro s _
  rw [zip_ofMembers, List.map_map, List.map_map, List.map_map]
  apply List.map_congr_left
  intro m hm
  simp [sampleAt, group_div (mem_groupMembers.1 hm)]

theorem kept_eq (spec : Sensor.Spec) (cal : Calibration) (cast : Geometry.ByteCast) (p : Packet) :
    kept spec cal cast p =
      ((emissionOrder spec p.footer.returnMode).filter
          fun x => (sampleAt spec p x.1 x.2).choice.keep).map
        fun x => point spec cal cast p (groupDeltas spec p) (sampleAt spec p x.1 x.2) := by
  rw [kept, samples_eq, List.filter_map, List.map_map]
  rfl

/-- A collapsed sample: in dual mode, a strongest-return sample (second half of its bank's pair
in the firing group) that measured the same non-zero distance as the last-return sample of the
same bank and slot, `banks` blocks before it. -/
def Collapsed (spec : Sensor.Spec) (mode : ReturnMode) (buf : ByteArray) (b s : Nat) : Prop :=
  mode = .dual ∧ spec.banks ≤ b % ReturnMode.blocksPerGroup spec .dual ∧
    distanceAt buf b s ≠ 0 ∧ distanceAt buf (b - spec.banks) s = distanceAt buf b s

instance (spec : Sensor.Spec) (mode : ReturnMode) (buf : ByteArray) (b s : Nat) :
    Decidable (Collapsed spec mode buf b s) :=
  inferInstanceAs (Decidable (mode = .dual ∧ spec.banks ≤ b % ReturnMode.blocksPerGroup spec .dual ∧
    distanceAt buf b s ≠ 0 ∧ distanceAt buf (b - spec.banks) s = distanceAt buf b s))

def Kept (spec : Sensor.Spec) (mode : ReturnMode) (buf : ByteArray) (b s : Nat) : Prop :=
  distanceAt buf b s ≠ 0 ∧ ¬Collapsed spec mode buf b s

instance (spec : Sensor.Spec) (mode : ReturnMode) (buf : ByteArray) (b s : Nat) :
    Decidable (Kept spec mode buf b s) :=
  inferInstanceAs (Decidable (distanceAt buf b s ≠ 0 ∧ ¬Collapsed spec mode buf b s))

def keptSamples (spec : Sensor.Spec) (mode : ReturnMode) (buf : ByteArray) : List (Nat × Nat) :=
  (emissionOrder spec mode).filter fun x => decide (Kept spec mode buf x.1 x.2)

def bankAt (buf : ByteArray) (b : Nat) : Nat := if flagAt buf b = 0xEEFF then 0 else 1

theorem keep_sampleAt {spec : Sensor.Spec} {buf : ByteArray} {mode : ReturnMode} {b s : Nat}
    (hb : b < 12) (hs : s < 32) :
    (sampleAt spec ⟨readBlocks buf, footerOf buf mode⟩ b s).choice.keep =
      decide (Kept spec mode buf b s) := by
  have hraw : ∀ b' < 12, ((readBlocks buf).getD b' default).distances.getD s 0 = distanceAt buf b' s :=
    fun b' hb' => by rw [readBlocks_getD hb', read_distance hs]
  rw [Bool.eq_iff_iff, decide_eq_true_iff]
  simp only [sampleAt, footerOf, keep_choiceAt, hraw b hb, hraw (b - spec.banks) (by omega)]
  simp only [Kept, Collapsed]
  tauto

theorem channelOf_read (spec : Sensor.Spec) {buf : ByteArray} {b : Nat} (s : Nat)
    (hflag : flagAt buf b = 0xEEFF ∨ flagAt buf b = 0xDDFF) :
    channelOf spec (Block.read buf b) s = 32 * bankAt buf b + s % spec.channelsPerSequence := by
  rcases hflag with h | h <;> simp [channelOf, bankAt, h, lowerBankFlag, Sensor.bankChannelOffset]

theorem points_eq_of_decode {d : Decoder} {buf : ByteArray} {p : Packet} {pts : List Point}
    (hp : parse d.spec buf = .ok p) (h : d.decode buf = .ok pts) :
    p.points d.spec d.calibration d.byteCast = .ok pts := by
  obtain ⟨p', hp', hpts⟩ := Decoder.decode_eq_ok.1 h
  rw [hp] at hp'
  cases hp'
  exact hpts

theorem decode_eq_map_keptSamples {d : Decoder} {buf : ByteArray} {p : Packet} {pts : List Point}
    (hp : parse d.spec buf = .ok p) (h : d.decode buf = .ok pts) :
    pts = (keptSamples d.spec p.footer.returnMode buf).map fun x =>
      point d.spec d.calibration d.byteCast p (groupDeltas d.spec p) (sampleAt d.spec p x.1 x.2) := by
  obtain ⟨-, rfl⟩ := points_eq_ok.1 (points_eq_of_decode hp h)
  obtain ⟨-, -, mode, -, rfl⟩ := parse_eq_ok.1 hp
  rw [kept_eq, keptSamples]
  congr 1
  apply List.filter_congr
  rintro ⟨b, s⟩ hx
  obtain ⟨hb, hs⟩ := (mem_emissionOrder d.model _ b s).1 hx
  exact keep_sampleAt hb hs

theorem rows_forall₂ {d : Decoder} {buf : ByteArray} {p : Packet} {pts : List Point}
    {R : Point → Nat × Nat → Prop} (hp : parse d.spec buf = .ok p) (h : d.decode buf = .ok pts)
    (hR : ∀ b s, (b, s) ∈ keptSamples d.spec p.footer.returnMode buf →
      R (point d.spec d.calibration d.byteCast p (groupDeltas d.spec p) (sampleAt d.spec p b s))
        (b, s)) :
    List.Forall₂ R pts (keptSamples d.spec p.footer.returnMode buf) := by
  rw [decode_eq_map_keptSamples hp h, List.forall₂_map_left_iff, List.forall₂_same]
  rintro ⟨b, s⟩ hx
  exact hR b s hx

theorem countP_split {α : Type} (l : List α) (p q : α → Bool) (h : ∀ x, q x → p x) :
    l.countP p = l.countP (fun x => p x && !q x) + l.countP q := by
  induction l with
  | nil => rfl
  | cons x l ih =>
      simp only [List.countP_cons, ih]
      cases hq : q x
      · simp
        omega
      · simp [h x hq]
        omega

/-- How the rows of a decoded packet follow its samples: row for row they are the kept samples
in emission order, each with its block, its bank's channel for its slot and its reflectivity
byte; no sample is listed twice; a sample is listed exactly when it is kept; and so the rows
number the samples that measured a distance less the collapsed ones. -/
structure RowsFollowSamples (spec : Sensor.Spec) (mode : ReturnMode) (buf : ByteArray)
    (pts : List Point) : Prop where
  rows : List.Forall₂ (fun (r : Point) (x : Nat × Nat) => r.block = x.1 ∧
    r.channel = 32 * bankAt buf x.1 + x.2 % spec.channelsPerSequence ∧
    r.reflectivity = reflectivityAt buf x.1 x.2) pts (keptSamples spec mode buf)
  nodup : (keptSamples spec mode buf).Nodup
  mem_iff : ∀ b s, (b, s) ∈ keptSamples spec mode buf ↔ b < 12 ∧ s < 32 ∧ Kept spec mode buf b s
  count : pts.length + allSamples.countP (fun x => decide (Collapsed spec mode buf x.1 x.2)) =
    allSamples.countP fun x => decide (distanceAt buf x.1 x.2 ≠ 0)

theorem mem_keptSamples (model : Sensor.Model) (mode : ReturnMode) (buf : ByteArray) (b s : Nat) :
    (b, s) ∈ keptSamples model.spec mode buf ↔ b < 12 ∧ s < 32 ∧ Kept model.spec mode buf b s := by
  rw [keptSamples, List.mem_filter, mem_emissionOrder, decide_eq_true_iff, and_assoc]

theorem length_keptSamples (model : Sensor.Model) (mode : ReturnMode) (buf : ByteArray) :
    (keptSamples model.spec mode buf).length +
        allSamples.countP (fun x => decide (Collapsed model.spec mode buf x.1 x.2)) =
      allSamples.countP fun x => decide (distanceAt buf x.1 x.2 ≠ 0) := by
  have hkept : (keptSamples model.spec mode buf).length =
      allSamples.countP fun x => decide (Kept model.spec mode buf x.1 x.2) := by
    rw [keptSamples, ← List.countP_eq_length_filter, (emissionOrder_perm model mode).countP_eq]
  -- a collapsed sample measured a distance, so the measured ones split into kept and collapsed
  have hsplit := countP_split allSamples (fun x => decide (distanceAt buf x.1 x.2 ≠ 0))
    (fun x => decide (Collapsed model.spec mode buf x.1 x.2))
    (fun x hx => decide_eq_true (of_decide_eq_true hx).2.2.1)
  rw [hkept, hsplit]
  congr 2
  funext x
  rw [Bool.eq_iff_iff, decide_eq_true_iff]
  simp [Kept]

theorem decode_rows_follow_samples (d : Decoder) (buf : ByteArray) (p : Packet) (pts : List Point)
    (hp : parse d.spec buf = .ok p) (h : d.decode buf = .ok pts) :
    RowsFollowSamples d.spec p.footer.returnMode buf pts := by
  have hlength := congrArg List.length (decode_eq_map_keptSamples hp h)
  obtain ⟨-, hflags, mode, -, rfl⟩ := parse_eq_ok.1 hp
  refine ⟨rows_forall₂ hp h fun b s hx => ?_, (nodup_emissionOrder _ _).filter _,
    mem_keptSamples d.model mode buf, ?_⟩
  · obtain ⟨hb, hs, -⟩ := (mem_keptSamples d.model mode buf b s).1 hx
    simp only [point, sampleAt, readBlocks_getD hb, read_reflectivity hs,
      channelOf_read _ s (hflags b hb), and_self]
  · rw [hlength, List.length_map]
    exact length_keptSamples d.model mode buf

theorem decode_hdl64e {d : Decoder} (hd : d.model = .hdl64e) {buf : ByteArray} {p : Packet}
    (hp : parse Sensor.Model.hdl64e.spec buf = .ok p) :
    d.decode buf = .ok (kept d.spec d.calibration d.byteCast p) := by
  obtain ⟨model, cal, hcal, cast⟩ := d
  subst hd
  obtain ⟨hs, -, mode, -, rfl⟩ := parse_eq_ok.1 hp
  exact Decoder.decode_eq_ok.2 ⟨_, hp, points_eq_ok.2
    ⟨(checkChannels_eq_ok .hdl64e hcal buf).2 fun h => absurd h.1 (by decide), rfl⟩⟩

def mixedRows : List Point :=
  kept Sensor.Model.hdl64e.spec (Decoder.flatDecoder .hdl64e).calibration .x86 mixedPacket

theorem decode_mixedBytes : (Decoder.flatDecoder .hdl64e).decode mixedBytes = .ok mixedRows :=
  decode_hdl64e rfl parse_mixedBytes

theorem mixedBytes_rows_follow_samples :
    parse Sensor.Model.hdl64e.spec mixedBytes = .ok mixedPacket ∧
      (Decoder.flatDecoder .hdl64e).decode mixedBytes = .ok mixedRows ∧
      RowsFollowSamples Sensor.Model.hdl64e.spec .dual mixedBytes mixedRows :=
  ⟨parse_mixedBytes, decode_mixedBytes, decode_rows_follow_samples (Decoder.flatDecoder .hdl64e)
    mixedBytes _ _ parse_mixedBytes decode_mixedBytes⟩

end SpinLidar.Synthesis
