import SpinLidar.Proofs.Emission
namespace SpinLidar.Synthesis

open Packet

/-- What a row says of the echo it reports: its block, the block's reflectivity byte, its return
index, the number of returns of its firing and its return type. -/
structure Echo where
  block : Nat
  reflectivity : Nat
  returnIndex : Nat
  numReturns : Nat
  returnType : ReturnType
deriving DecidableEq

def echoOf (r : Point) : Echo := ⟨r.block, r.reflectivity, r.returnIndex, r.numReturns, r.returnType⟩

/-- The rows of one dual firing, from the block `S` of its strongest return, which measured `a`
with reflectivity `ra`, and the block `L` of its last return, which measured `b` with
reflectivity `rb`. -/
def firingEchoes (S L a b ra rb : Nat) : List Echo :=
  if a ≠ 0 ∧ b ≠ 0 ∧ a ≠ b then [⟨S, ra, 1, 2, .strongest⟩, ⟨L, rb, 2, 2, .last⟩]
  else if a = b ∧ b ≠ 0 then [⟨L, rb, 1, 1, .lastAndStrongest⟩]
  else if a ≠ 0 then [⟨S, ra, 1, 1, .strongest⟩]
  else if b ≠ 0 then [⟨L, rb, 1, 1, .last⟩]
  else []

def lastBlock (spec : Sensor.Spec) (g k : Nat) : Nat := g * (2 * spec.banks) + k

def strongestBlock (spec : Sensor.Spec) (g k : Nat) : Nat := g * (2 * spec.banks) + spec.banks + k

def dualFirings (spec : Sensor.Spec) : List (Nat × Nat × Nat) :=
  (List.range (12 / (2 * spec.banks))).flatMap fun g =>
    (List.range 32).flatMap fun s => (List.range spec.banks).map fun k => (g, k, s)

def dualEchoes (spec : Sensor.Spec) (buf : ByteArray) (g k s : Nat) : List Echo :=
  let S := strongestBlock spec g k
  let L := lastBlock spec g k
  firingEchoes S L (distanceAt buf S s) (distanceAt buf L s) (reflectivityAt buf S s)
    (reflectivityAt buf L s)

def Choice.echo (b refl : Nat) (c : Choice) : Echo := ⟨b, refl, c.returnIndex, c.numReturns, c.returnType⟩

theorem dualPair_echoes (S L a b ra rb : Nat) :
    (([(S, ra, (Choice.dualPair a b).1), (L, rb, (Choice.dualPair a b).2)].filter
        (·.2.2.keep)).map fun x => Choice.echo x.1 x.2.1 x.2.2) =
      firingEchoes S L a b ra rb := by
  -- the four cases of the rule: one echo seen twice or none, then two echoes or one
  by_cases hab : a = b
  · subst hab
    by_cases ha : a = 0 <;> simp [Choice.dualPair, firingEchoes, Choice.echo, ha]
  · by_cases ha : a = 0
    · subst ha
      simp [Choice.dualPair, firingEchoes, Choice.echo, hab, Ne.symm hab]
    · by_cases hb : b = 0 <;> simp [Choice.dualPair, firingEchoes, Choice.echo, ha, hb, hab]

theorem emissionOrder_dual (spec : Sensor.Spec) :
    emissionOrder spec .dual = (dualFirings spec).flatMap fun f =>
      [(strongestBlock spec f.1 f.2.1, f.2.2), (lastBlock spec f.1 f.2.1, f.2.2)] := by
  have hP : ReturnMode.blocksPerGroup spec .dual = 2 * spec.banks := Nat.mul_comm _ _
  unfold emissionOrder dualFirings
  simp only [length_groupMembers, hP]
  simp only [ReturnMode.groupMembers, List.map_flatMap, List.map_cons, List.map_nil,
    List.flatMap_assoc, List.flatMap_map, strongestBlock, lastBlock, Nat.add_assoc]

section Firing

variable {spec : Sensor.Spec} {g k : Nat}

theorem strongestBlock_eq (spec : Sensor.Spec) (g k : Nat) :
    strongestBlock spec g k = g * ReturnMode.blocksPerGroup spec .dual + (spec.banks + k) := by
  simp only [strongestBlock, ReturnMode.blocksPerGroup, ReturnMode.returnsPerFiring,
    Nat.mul_comm spec.banks 2, Nat.add_assoc]

theorem lastBlock_eq (spec : Sensor.Spec) (g k : Nat) :
    lastBlock spec g k = g * ReturnMode.blocksPerGroup spec .dual + k := by
  simp only [lastBlock, ReturnMode.blocksPerGroup, ReturnMode.returnsPerFiring,
    Nat.mul_comm spec.banks 2]

theorem choiceAt_strongestBlock (hk : k < spec.banks) (raw : Nat → Nat) :
    choiceAt spec .dual raw (strongestBlock spec g k) =
      (Choice.dualPair (raw (strongestBlock spec g k)) (raw (lastBlock spec g k))).1 := by
  have hmod : strongestBlock spec g k % ReturnMode.blocksPerGroup spec .dual = spec.banks + k := by
    rw [strongestBlock_eq]
    exact Nat.mul_add_mod_of_lt (by simp [ReturnMode.blocksPerGroup, ReturnMode.returnsPerFiring]; omega)
  have hpair : strongestBlock spec g k - spec.banks = lastBlock spec g k := by
    simp only [strongestBlock, lastBlock]
    omega
  simp [choiceAt, hmod, hpair]

theorem choiceAt_lastBlock (hk : k < spec.banks) (raw : Nat → Nat) :
    choiceAt spec .dual raw (lastBlock spec g k) =
      (Choice.dualPair (raw (strongestBlock spec g k)) (raw (lastBlock spec g k))).2 := by
  have hmod : lastBlock spec g k % ReturnMode.blocksPerGroup spec .dual = k := by
    rw [lastBlock_eq]
    exact Nat.mul_add_mod_of_lt (by simp [ReturnMode.blocksPerGroup, ReturnMode.returnsPerFiring]; omega)
  have hpair : lastBlock spec g k + spec.banks = strongestBlock spec g k := by
    simp only [strongestBlock, lastBlock]
    omega
  have hlast : ¬spec.banks ≤ k := by omega
  simp [choiceAt, hmod, hpair, hlast]

theorem firing_blocks_lt (hg : g < 12 / (2 * spec.banks)) (hk : k < spec.banks) :
    strongestBlock spec g k < 12 ∧ lastBlock spec g k < 12 := by
  have hP : 0 < 2 * spec.banks := by omega
  -- the group after this one still starts within the packet
  have hnext : (g + 1) * (2 * spec.banks) ≤ 12 := (Nat.le_div_iff_mul_le hP).1 hg
  rw [Nat.succ_mul] at hnext
  simp only [strongestBlock, lastBlock]
  omega

variable {buf : ByteArray} {s : Nat}

theorem firing_echoes (cal : Calibration) (cast : Geometry.ByteCast) (deltas : List Float)
    (hg : g < 12 / (2 * spec.banks)) (hk : k < spec.banks) (hs : s < 32) :
    let p : Packet := ⟨readBlocks buf, footerOf buf .dual⟩
    (([(strongestBlock spec g k, s), (lastBlock spec g k, s)].filter
        fun x => (sampleAt spec p x.1 x.2).choice.keep).map
      fun x => echoOf (point spec cal cast p deltas (sampleAt spec p x.1 x.2))) =
      dualEchoes spec buf g k s := by
  intro p
  obtain ⟨hS, hL⟩ := firing_blocks_lt hg hk
  have hraw : ∀ b < 12, ((readBlocks buf).getD b default).distances.getD s 0 = distanceAt buf b s :=
    fun b hb => by rw [readBlocks_getD hb, read_distance hs]
  have hrefl : ∀ b < 12,
      ((readBlocks buf).getD b default).reflectivities.getD s 0 = reflectivityAt buf b s :=
    fun b hb => by rw [readBlocks_getD hb, read_reflectivity hs]
  rw [dualEchoes, ← dualPair_echoes]
  simp only [p, sampleAt, footerOf, choiceAt_strongestBlock hk, choiceAt_lastBlock hk, hraw _ hS,
    hraw _ hL, List.filter_cons, List.filter_nil]
  split_ifs <;>
    simp only [List.map_cons, List.map_nil, echoOf, point, Choice.echo, choiceAt_strongestBlock hk,
      choiceAt_lastBlock hk, hraw _ hS, hraw _ hL, hrefl _ hS, hrefl _ hL]

end Firing

theorem mem_dualFirings {spec : Sensor.Spec} {g k s : Nat} :
    (g, k, s) ∈ dualFirings spec ↔ g < 12 / (2 * spec.banks) ∧ s < 32 ∧ k < spec.banks := by
  simp [dualFirings, and_comm]

theorem choiceAt_single {spec : Sensor.Spec} {mode : ReturnMode} (hmode : mode ≠ .dual)
    (raw : Nat → Nat) (b : Nat) : choiceAt spec mode raw b = Choice.single mode (raw b) := by
  cases mode with
  | dual => exact absurd rfl hmode
  | strongest | last => rfl

/-- The rows of a decoded packet follow its return mode. In dual mode they are the rows of its
firings, firing by firing in emission order. In the single-return modes every row is the only
return of its firing, typed as the last return exactly in the last-return mode. -/
theorem decode_rows_follow_returns (d : Decoder) (buf : ByteArray) (p : Packet) (pts : List Point)
    (hp : parse d.spec buf = .ok p) (h : d.decode buf = .ok pts) :
    (p.footer.returnMode = .dual →
      pts.map echoOf =
        (dualFirings d.spec).flatMap fun f => dualEchoes d.spec buf f.1 f.2.1 f.2.2) ∧
    (p.footer.returnMode ≠ .dual → ∀ r ∈ pts,
      r.returnIndex = 1 ∧ r.numReturns = 1 ∧
        r.returnType = if p.footer.returnMode = .last then .last else .strongest) := by
  obtain ⟨-, rfl⟩ := points_eq_ok.1 (points_eq_of_decode hp h)
  obtain ⟨-, -, mode, -, rfl⟩ := parse_eq_ok.1 hp
  have hfooter : (footerOf buf mode).returnMode = mode := rfl
  rw [kept_eq]
  dsimp only
  rw [hfooter]
  refine ⟨fun hmode => ?_, fun hmode r hr => ?_⟩
  · -- a dual packet is emitted firing by firing
    subst hmode
    rw [List.map_map, emissionOrder_dual, List.filter_flatMap, List.map_flatMap]
    apply List.flatMap_congr
    rintro ⟨g, k, s⟩ hf
    obtain ⟨hg, hs, hk⟩ := mem_dualFirings.1 hf
    exact firing_echoes d.calibration d.byteCast _ hg hk hs
  · obtain ⟨x, -, rfl⟩ := List.mem_map.1 hr
    simp [point, sampleAt, hfooter, choiceAt_single hmode, Choice.single]

theorem mixedBytes_rows_follow_returns :
    parse Sensor.Model.hdl64e.spec mixedBytes = .ok mixedPacket ∧
      (Decoder.flatDecoder .hdl64e).decode mixedBytes = .ok mixedRows ∧
      (mixedPacket.footer.returnMode = .dual →
        mixedRows.map echoOf = (dualFirings Sensor.Model.hdl64e.spec).flatMap fun f =>
          dualEchoes Sensor.Model.hdl64e.spec mixedBytes f.1 f.2.1 f.2.2) ∧
      (mixedPacket.footer.returnMode ≠ .dual → ∀ r ∈ mixedRows,
        r.returnIndex = 1 ∧ r.numReturns = 1 ∧
          r.returnType = if mixedPacket.footer.returnMode = .last then .last else .strongest) :=
  ⟨parse_mixedBytes, decode_mixedBytes, decode_rows_follow_returns (Decoder.flatDecoder .hdl64e)
    mixedBytes _ _ parse_mixedBytes decode_mixedBytes⟩

end SpinLidar.Synthesis
