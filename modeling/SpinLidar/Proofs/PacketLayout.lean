import SpinLidar.Packet.Parse
import Mathlib.Tactic.SplitIfs
namespace SpinLidar.Packet

def flagAt (buf : ByteArray) (i : Nat) : Nat := le16 buf (100 * i)

def azimuthAt (buf : ByteArray) (i : Nat) : Nat := le16 buf (100 * i + 2)

def distanceAt (buf : ByteArray) (i j : Nat) : Nat := le16 buf (100 * i + 4 + 3 * j)

def reflectivityAt (buf : ByteArray) (i j : Nat) : Nat := byteAt buf (100 * i + 6 + 3 * j)

def BankFlags (buf : ByteArray) : Prop := ∀ i < 12, flagAt buf i = 0xEEFF ∨ flagAt buf i = 0xDDFF

instance (buf : ByteArray) : Decidable (BankFlags buf) :=
  inferInstanceAs (Decidable (∀ i < 12, flagAt buf i = 0xEEFF ∨ flagAt buf i = 0xDDFF))

/-- The block layout of a dual return packet of the 64-laser model: each of the three runs of
four blocks has a single azimuth and the flags upper, lower, upper, lower. -/
def DualLayout (buf : ByteArray) : Prop :=
  ∀ r < 3, (∀ k < 4, azimuthAt buf (4 * r + k) = azimuthAt buf (4 * r)) ∧
    (List.range 4).map (fun k => flagAt buf (4 * r + k)) = [0xEEFF, 0xDDFF, 0xEEFF, 0xDDFF]

theorem byteAt_lt (buf : ByteArray) (i : Nat) : byteAt buf i < 256 := by
  unfold byteAt
  split
  · exact UInt8.toNat_lt _
  · omega

@[simp] theorem read_flag (buf : ByteArray) (i : Nat) : (Block.read buf i).flag = flagAt buf i := rfl

@[simp] theorem read_azimuth (buf : ByteArray) (i : Nat) :
    (Block.read buf i).azimuth = azimuthAt buf i := rfl

theorem read_distances (buf : ByteArray) (i : Nat) :
    (Block.read buf i).distances.toList = (List.range 32).map (distanceAt buf i) := by
  simp [Block.read, distanceAt, blockSize, Sensor.samplesPerBlock]

theorem read_reflectivities (buf : ByteArray) (i : Nat) :
    (Block.read buf i).reflectivities.toList = (List.range 32).map (reflectivityAt buf i) := by
  simp [Block.read, reflectivityAt, blockSize, Sensor.samplesPerBlock]

theorem read_distance {buf : ByteArray} {i j : Nat} (hj : j < 32) :
    (Block.read buf i).distances.getD j 0 = distanceAt buf i j := by
  simp [Block.read, distanceAt, blockSize, Sensor.samplesPerBlock, hj]

theorem read_reflectivity {buf : ByteArray} {i j : Nat} (hj : j < 32) :
    (Block.read buf i).reflectivities.getD j 0 = reflectivityAt buf i j := by
  simp [Block.read, reflectivityAt, blockSize, Sensor.samplesPerBlock, hj]

theorem readBlocks_toList (buf : ByteArray) :
    (readBlocks buf).toList = (List.range 12).map (Block.read buf) := by
  simp [readBlocks, Sensor.blocksPerPacket]

@[simp] theorem size_readBlocks (buf : ByteArray) : (readBlocks buf).size = 12 := by
  simp [readBlocks, Sensor.blocksPerPacket]

theorem readBlocks_getElem? {buf : ByteArray} {i : Nat} (hi : i < 12) :
    (readBlocks buf)[i]? = some (Block.read buf i) := by
  simp [readBlocks, Sensor.blocksPerPacket, hi]

theorem readBlocks_getD {buf : ByteArray} {i : Nat} (hi : i < 12) :
    (readBlocks buf).getD i default = Block.read buf i := by
  simp [Array.getD_eq_getD_getElem?, readBlocks_getElem? hi]

theorem zipIdx_range (n : Nat) : (List.range n).zipIdx = (List.range n).map fun i => (i, i) := by
  apply List.ext_getElem <;> simp

theorem firstUnknownFlag_readBlocks (buf : ByteArray) :
    firstUnknownFlag (readBlocks buf) =
      ((List.range 12).find? fun i => !Block.isBankFlag (flagAt buf i)).map
        fun i => (i, flagAt buf i) := by
  rw [firstUnknownFlag, readBlocks_toList, List.zipIdx_map, zipIdx_range, List.map_map,
    List.find?_map]
  simp only [Function.comp_def, Prod.map_apply, id, read_flag]
  cases (List.range 12).find? fun i => !Block.isBankFlag (flagAt buf i) <;> rfl

theorem isBankFlag_iff (flag : Nat) : Block.isBankFlag flag ↔ flag = 0xEEFF ∨ flag = 0xDDFF := by
  simp [Block.isBankFlag, upperBankFlag, lowerBankFlag]

theorem firstUnknownFlag_eq_none (buf : ByteArray) :
    firstUnknownFlag (readBlocks buf) = none ↔ BankFlags buf := by
  simp [firstUnknownFlag_readBlocks, isBankFlag_iff, BankFlags]

theorem firstUnknownFlag_eq_some (buf : ByteArray) (i flag : Nat) :
    firstUnknownFlag (readBlocks buf) = some (i, flag) ↔
      i < 12 ∧ flag = flagAt buf i ∧ ¬(flagAt buf i = 0xEEFF ∨ flagAt buf i = 0xDDFF) ∧
        ∀ j < i, flagAt buf j = 0xEEFF ∨ flagAt buf j = 0xDDFF := by
  simp only [firstUnknownFlag_readBlocks, Option.map_eq_some_iff, Prod.mk.injEq,
    List.find?_range_eq_some, List.mem_range, Bool.not_eq_eq_eq_not, Bool.not_true,
    Bool.not_not, Bool.eq_false_iff, ne_eq, isBankFlag_iff]
  constructor
  · rintro ⟨j, ⟨hj, hlt, hbefore⟩, rfl, rfl⟩
    exact ⟨hlt, rfl, hj, hbefore⟩
  · rintro ⟨hlt, rfl, hi, hbefore⟩
    exact ⟨i, ⟨hi, hlt, hbefore⟩, rfl, rfl⟩

def wireMode (spec : Sensor.Spec) (buf : ByteArray) : Except DecodeError ReturnMode :=
  if spec.footerHasReturnMode then ReturnMode.resolve spec (byteAt buf (footerOffset + 4))
  else .ok (ReturnMode.infer spec ((readBlocks buf).toList.map (·.azimuth))
    ((readBlocks buf).toList.map (·.flag)))

theorem wireMode_hdl64e (buf : ByteArray) :
    wireMode Sensor.Model.hdl64e.spec buf = .ok (ReturnMode.infer Sensor.Model.hdl64e.spec
      ((readBlocks buf).toList.map (·.azimuth)) ((readBlocks buf).toList.map (·.flag))) := rfl

def footerOf (buf : ByteArray) (mode : ReturnMode) : Footer :=
  ⟨le32 buf footerOffset, mode, byteAt buf (footerOffset + 5),
    (byteAt buf (footerOffset + 4), byteAt buf (footerOffset + 5))⟩

theorem parse_eq (spec : Sensor.Spec) (buf : ByteArray) :
    parse spec buf =
      if buf.size ≠ Sensor.packetSize then
        .error (.wrongSize spec.model.name Sensor.packetSize buf.size)
      else match firstUnknownFlag (readBlocks buf) with
        | some (i, flag) => .error (.unknownFlag i flag)
        | none => (wireMode spec buf).map fun mode => ⟨readBlocks buf, footerOf buf mode⟩ := by
  unfold parse wireMode
  by_cases hs : buf.size = Sensor.packetSize
  · cases hf : firstUnknownFlag (readBlocks buf) with
    | none => by_cases hm : spec.footerHasReturnMode <;> simp [hs, hf, hm, footerOf] <;> rfl
    | some r => simp [hs, hf]; rfl
  · simp [hs]; rfl

theorem parse_eq_ok {spec : Sensor.Spec} {buf : ByteArray} {p : Packet} :
    parse spec buf = .ok p ↔
      buf.size = 1206 ∧ BankFlags buf ∧
        ∃ mode, wireMode spec buf = .ok mode ∧ p = ⟨readBlocks buf, footerOf buf mode⟩ := by
  rw [parse_eq, ← firstUnknownFlag_eq_none]
  simp only [Sensor.packetSize]
  by_cases hs : buf.size = 1206
  · cases firstUnknownFlag (readBlocks buf) with
    | some r => simp [hs]
    | none =>
        cases wireMode spec buf with
        | error e => simp [hs, Except.map]
        | ok mode => simp [hs, Except.map, eq_comm]
  · simp [hs]

theorem parse_eq_error {spec : Sensor.Spec} {buf : ByteArray} {e : DecodeError} :
    parse spec buf = .error e ↔
      (buf.size ≠ 1206 ∧ e = .wrongSize spec.model.name 1206 buf.size) ∨
      (buf.size = 1206 ∧ ∃ i flag, firstUnknownFlag (readBlocks buf) = some (i, flag) ∧
        e = .unknownFlag i flag) ∨
      (buf.size = 1206 ∧ BankFlags buf ∧ wireMode spec buf = .error e) := by
  rw [parse_eq, ← firstUnknownFlag_eq_none]
  simp only [Sensor.packetSize]
  by_cases hs : buf.size = 1206
  · cases firstUnknownFlag (readBlocks buf) with
    | some r =>
        obtain ⟨i, flag⟩ := r
        simp only [hs, ne_eq, not_true_eq_false, ↓reduceIte, Except.error.injEq, false_and,
          Option.some.injEq, Prod.mk.injEq, true_and, false_or, reduceCtorEq, and_false, or_false]
        exact ⟨fun h => ⟨i, flag, ⟨rfl, rfl⟩, h.symm⟩, fun ⟨_, _, ⟨hi, hf⟩, h⟩ => hi ▸ hf ▸ h.symm⟩
    | none => cases wireMode spec buf <;> simp [hs, Except.map]
  · simp [hs, eq_comm]

theorem ofCode?_eq_some {v : Int} {m : ReturnMode} :
    ReturnMode.ofCode? v = some m ↔ (m.code : Int) = v := by
  cases m <;> unfold ReturnMode.ofCode? <;> split_ifs <;> simp [ReturnMode.code] <;> omega

theorem ofCode?_eq_none {v : Int} : ReturnMode.ofCode? v = none ↔ v ≠ 0x37 ∧ v ≠ 0x38 ∧ v ≠ 0x39 := by
  unfold ReturnMode.ofCode?
  split_ifs <;> simp_all

theorem supportsDual_spec (model : Sensor.Model) : model.spec.supportsDual = true := by
  cases model <;> rfl

theorem resolve_eq_ok {spec : Sensor.Spec} (h : spec.footerHasReturnMode)
    (hd : spec.supportsDual) {v : Int} {m : ReturnMode} :
    ReturnMode.resolve spec v = .ok m ↔ (m.code : Int) = v := by
  rw [ReturnMode.resolve, if_pos h, ← ofCode?_eq_some]
  cases ReturnMode.ofCode? v <;> simp [hd]

theorem resolve_eq_error {spec : Sensor.Spec} (h : spec.footerHasReturnMode)
    (hd : spec.supportsDual) {v : Int} {e : DecodeError} :
    ReturnMode.resolve spec v = .error e ↔ ReturnMode.ofCode? v = none ∧ e = .unknownReturnMode v := by
  rw [ReturnMode.resolve, if_pos h]
  cases ReturnMode.ofCode? v with
  | none => simp [eq_comm]
  | some m => simp [hd]

theorem infer_dual_or_strongest (spec : Sensor.Spec) (azimuths flags : List Nat) :
    ReturnMode.infer spec azimuths flags = .dual ∨ ReturnMode.infer spec azimuths flags = .strongest := by
  simp only [ReturnMode.infer]
  split_ifs <;> simp

theorem unsupported_never_dual {spec : Sensor.Spec} (hd : spec.supportsDual = false) (v : Int)
    (azimuths flags : List Nat) :
    ReturnMode.resolve spec v ≠ .ok .dual ∧ ReturnMode.infer spec azimuths flags = .strongest := by
  constructor
  · unfold ReturnMode.resolve
    split_ifs
    · cases ReturnMode.ofCode? v with
      | none => simp
      | some m => by_cases hm : m = .dual <;> simp [hm, hd]
    · simp
  · simp [ReturnMode.infer, hd]

theorem map_range_mul {α : Type} (f : Nat → α) (k n : Nat) :
    (List.range (k * n)).map f =
      (List.range n).flatMap fun j => (List.range k).map fun t => f (k * j + t) := by
  induction n with
  | zero => simp
  | succ n ih =>
      rw [Nat.mul_succ, List.range_add, List.map_append, ih, List.range_succ, List.flatMap_append]
      simp [Function.comp_def]

theorem chunks_go_flatten {α : Type} {k : Nat} (hk : 0 < k) (ls : List (List α))
    (hlen : ∀ l ∈ ls, l.length = k) (fuel : Nat) (hfuel : ls.length ≤ fuel) :
    ReturnMode.chunks.go k ls.flatten fuel = ls := by
  induction ls generalizing fuel with
  | nil => cases fuel <;> simp [ReturnMode.chunks.go]
  | cons l ls ih =>
      obtain ⟨fuel, rfl⟩ : ∃ f, fuel = f + 1 := ⟨fuel - 1, by simp at hfuel; omega⟩
      have hl : l.length = k := hlen l List.mem_cons_self
      have hne : (l ++ ls.flatten).isEmpty = false := by
        cases l with
        | nil => simp at hl; omega
        | cons => rfl
      rw [ReturnMode.chunks.go, List.flatten_cons, hne, List.take_left' hl, List.drop_left' hl,
        ih (fun l hl' => hlen l (List.mem_cons_of_mem _ hl')) fuel (by simp at hfuel; omega)]
      simp [Nat.pos_iff_ne_zero.1 hk]

theorem chunks_map_range_mul {α : Type} (f : Nat → α) {k : Nat} (hk : 0 < k) (n : Nat) :
    ReturnMode.chunks k ((List.range (k * n)).map f) =
      (List.range n).map fun r => (List.range k).map fun j => f (k * r + j) := by
  rw [ReturnMode.chunks, List.length_map, List.length_range, map_range_mul, List.flatMap_def]
  apply chunks_go_flatten hk
  · simp
  · simpa using Nat.le_mul_of_pos_left n hk

/-- On the 64-laser model a packet is dual exactly when its blocks have the dual layout: the
twelve blocks cut into three groups of four, each group at one azimuth with the bank flags
twice over. -/
theorem infer_eq_dual_iff (buf : ByteArray) :
    ReturnMode.infer Sensor.Model.hdl64e.spec ((readBlocks buf).toList.map (·.azimuth))
      ((readBlocks buf).toList.map (·.flag)) = .dual ↔ DualLayout buf := by
  have hgroup : ReturnMode.blocksPerGroup Sensor.Model.hdl64e.spec .dual = 4 := rfl
  have hflags : ReturnMode.dualGroupFlags Sensor.Model.hdl64e.spec =
      [0xEEFF, 0xDDFF, 0xEEFF, 0xDDFF] := rfl
  have hhead : (List.range 4).head? = some 0 := rfl
  rw [readBlocks_toList, List.map_map, List.map_map, show (12 : Nat) = 4 * 3 from rfl]
  simp only [ReturnMode.infer, hgroup, hflags, List.length_map, List.length_range,
    chunks_map_range_mul _ (show 0 < 4 by decide)]
  simp [DualLayout, List.all_eq_true, forall_and, hhead, supportsDual_spec]

def leBytes (v : Nat) : Nat → List UInt8
  | 0 => []
  | width + 1 => UInt8.ofNat (v % 256) :: leBytes (v / 256) width

theorem pushLE_bytes (out : ByteArray) (v width : Nat) :
    (pushLE out v width).data.toList = out.data.toList ++ leBytes v width := by
  induction width generalizing out v with
  | zero => simp [pushLE, leBytes]
  | succ width ih => simp [pushLE, leBytes, ih]

theorem leBytes_le16 (buf : ByteArray) (x : Nat) :
    leBytes (le16 buf x) 2 = [UInt8.ofNat (byteAt buf x), UInt8.ofNat (byteAt buf (x + 1))] := by
  have h₀ := byteAt_lt buf x
  have h₁ := byteAt_lt buf (x + 1)
  simp only [leBytes, le16, List.cons.injEq, and_true]
  constructor <;> congr 1 <;> omega

theorem leBytes_le32 (buf : ByteArray) (x : Nat) :
    leBytes (le32 buf x) 4 = [UInt8.ofNat (byteAt buf x), UInt8.ofNat (byteAt buf (x + 1)),
      UInt8.ofNat (byteAt buf (x + 2)), UInt8.ofNat (byteAt buf (x + 3))] := by
  have h₀ := byteAt_lt buf x
  have h₁ := byteAt_lt buf (x + 1)
  have h₂ := byteAt_lt buf (x + 2)
  have h₃ := byteAt_lt buf (x + 3)
  simp only [leBytes, le32, le16, List.cons.injEq, and_true, show x + 2 + 1 = x + 3 by omega]
  refine ⟨?_, ?_, ?_, ?_⟩ <;> congr 1 <;> omega

theorem leBytes_byteAt (buf : ByteArray) (x : Nat) :
    leBytes (byteAt buf x) 1 = [UInt8.ofNat (byteAt buf x)] := by
  simp [leBytes, Nat.mod_eq_of_lt (byteAt_lt buf x)]

theorem foldl_samples_bytes (out : ByteArray) (xs : List Nat) (d r : Nat → Nat) :
    (xs.foldl (fun out j => pushLE (pushLE out (d j) 2) (r j) 1) out).data.toList =
      out.data.toList ++ xs.flatMap fun j => leBytes (d j) 2 ++ leBytes (r j) 1 := by
  induction xs generalizing out with
  | nil => simp
  | cons j xs ih => simp [ih, pushLE_bytes]

theorem write_read (buf : ByteArray) (i : Nat) :
    (Block.read buf i).write.data.toList =
      (List.range blockSize).map fun k => UInt8.ofNat (byteAt buf (blockSize * i + k)) := by
  simp only [Block.write, Block.read]
  rw [foldl_samples_bytes, pushLE_bytes, pushLE_bytes]
  have h100 : blockSize = 4 + 3 * 32 := rfl
  rw [h100, List.range_add, List.map_append, map_range_mul]
  simp [leBytes_le16, leBytes_byteAt, Sensor.samplesPerBlock, List.range_succ, Array.getD]

theorem foldl_blocks_bytes (out : ByteArray) (bs : List Block) :
    (bs.foldl (fun out b => out ++ b.write) out).data.toList =
      out.data.toList ++ bs.flatMap fun b => b.write.data.toList := by
  induction bs generalizing out with
  | nil => simp
  | cons b bs ih => simp [ih, ByteArray.data_append]

theorem write_wire (buf : ByteArray) (mode : ReturnMode) :
    (Packet.write ⟨readBlocks buf, footerOf buf mode⟩).data.toList =
      (List.range Sensor.packetSize).map fun k => UInt8.ofNat (byteAt buf k) := by
  rw [Packet.write, ByteArray.data_append, Array.toList_append, ← Array.foldl_toList,
    foldl_blocks_bytes]
  simp only [Footer.write, footerOf, pushLE_bytes, readBlocks_toList]
  have h1206 : Sensor.packetSize = blockSize * 12 + 6 := rfl
  have h1200 : blockSize * 12 = footerOffset := rfl
  rw [h1206, List.range_add, List.map_append, map_range_mul, h1200, List.flatMap_map]
  simp only [write_read, leBytes_le32, leBytes_byteAt, ByteArray.data_empty,
    List.cons_append, List.nil_append]
  simp [List.range_succ]

theorem bytes_eq (buf : ByteArray) :
    buf.data.toList = (List.range buf.size).map fun k => UInt8.ofNat (byteAt buf k) := by
  apply List.ext_getElem
  · simp only [Array.length_toList, List.length_map, List.length_range, ByteArray.size_data]
  · intro k h₁ h₂
    have hk : k < buf.size := by simpa using h₂
    simp only [List.getElem_map, List.getElem_range, byteAt, dif_pos hk, UInt8.ofNat_toNat,
      Array.getElem_toList]
    rfl

theorem eq_of_bytes {a b : ByteArray} (h : a.data.toList = b.data.toList) : a = b := by
  cases a
  cases b
  simpa using h

/-- A packet holds exactly a buffer's wire fields: each of its twelve blocks the flag, azimuth
and samples at that block's offsets, and the footer the timestamp, product byte and status bytes
at theirs. The mode is the one the footer byte names on the models that report it; on the
64-laser model it is dual for the dual layout and strongest otherwise. -/
structure HoldsWireFields (model : Sensor.Model) (buf : ByteArray) (p : Packet) : Prop where
  size_blocks : p.blocks.size = 12
  blocks : ∀ i < 12, ∃ b, p.blocks[i]? = some b ∧ b.flag = flagAt buf i ∧
    b.azimuth = azimuthAt buf i ∧ b.distances.toList = (List.range 32).map (distanceAt buf i) ∧
    b.reflectivities.toList = (List.range 32).map (reflectivityAt buf i)
  timestamp : p.footer.timestamp = le32 buf 1200
  productId : p.footer.productId = byteAt buf 1205
  statusBytes : p.footer.statusBytes = (byteAt buf 1204, byteAt buf 1205)
  footerMode : model ≠ .hdl64e → p.footer.returnMode.code = byteAt buf 1204
  layoutMode : model = .hdl64e →
    (p.footer.returnMode = .dual ↔ DualLayout buf) ∧
      (¬DualLayout buf → p.footer.returnMode = .strongest)

/-- A parsed packet holds exactly its buffer's little-endian fields, and writing it back in the
wire layout gives the buffer byte for byte. -/
theorem parse_holds_wire_fields (model : Sensor.Model) (buf : ByteArray) (p : Packet)
    (h : parse model.spec buf = .ok p) : HoldsWireFields model buf p ∧ p.write = buf := by
  obtain ⟨hsize, -, mode, hmode, rfl⟩ := parse_eq_ok.1 h
  refine ⟨⟨size_readBlocks buf, fun i hi => ⟨_, readBlocks_getElem? hi, rfl, rfl,
    read_distances buf i, read_reflectivities buf i⟩, rfl, rfl, rfl, ?_, ?_⟩, ?_⟩
  · intro hm
    have hf : model.spec.footerHasReturnMode := by
      cases model <;> simp_all [Sensor.Model.spec]
    rw [wireMode, if_pos hf, resolve_eq_ok hf (supportsDual_spec model)] at hmode
    exact_mod_cast hmode
  · rintro rfl
    rw [wireMode_hdl64e, Except.ok.injEq] at hmode
    subst hmode
    exact ⟨infer_eq_dual_iff buf, fun hd =>
      (infer_dual_or_strongest _ _ _).resolve_left (mt (infer_eq_dual_iff buf).1 hd)⟩
  · apply eq_of_bytes
    rw [write_wire, bytes_eq, hsize]
    rfl

/-- A dual return packet of the 64-laser model as it comes off the wire: six firings of an
upper and a lower block, all at one azimuth, so that every run of four blocks repeats the bank
flags; every sample measured 600 units with reflectivity 32. -/
def dualBytes : ByteArray :=
  let samples : List UInt8 := (List.replicate 32 [0x58, 0x02, 0x20]).flatten
  let firing : List UInt8 := [0xFF, 0xEE, 0x10, 0x27] ++ samples ++ [0xFF, 0xDD, 0x10, 0x27] ++ samples
  ⟨((List.replicate 6 firing).flatten ++ [0x80, 0xF0, 0x5E, 0xD6, 0x48, 0x60]).toArray⟩

theorem parse_dualBytes :
    parse Sensor.Model.hdl64e.spec dualBytes =
      .ok ⟨readBlocks dualBytes, footerOf dualBytes .dual⟩ :=
  parse_eq_ok.2 ⟨by decide +kernel, by decide +kernel, .dual,
    by rw [wireMode_hdl64e]; exact congrArg _ (by decide +kernel), rfl⟩

/-- A dual return packet of the 64-laser model whose firings report every kind of echo. Its
three groups of four blocks lie at azimuths 359.80°, 359.90° and 0.04°, so the packet crosses
zero once. By `s % 5`, slot `s` of a firing has two echoes at one distance, two distinct
echoes, a strongest echo only, a last echo only, or none. -/
def mixedBytes : ByteArray :=
  let sample := fun (d : Nat) => [d.toUInt8, (d / 256).toUInt8, 0x20]
  let samples := fun (ds : List Nat) =>
    ((List.range 32).map fun s => sample (ds.getD (s % 5) 0)).flatten
  let lastEchoes := [600, 600, 0, 600, 0]
  let strongestEchoes := [600, 700, 600, 0, 0]
  let group := fun (az : List UInt8) =>
    [0xFF, 0xEE] ++ az ++ samples lastEchoes ++ [0xFF, 0xDD] ++ az ++ samples lastEchoes ++
      [0xFF, 0xEE] ++ az ++ samples strongestEchoes ++ [0xFF, 0xDD] ++ az ++ samples strongestEchoes
  ⟨(group [0x8C, 0x8C] ++ group [0x96, 0x8C] ++ group [0x04, 0x00] ++
    [0x80, 0xF0, 0x5E, 0xD6, 0x48, 0x60]).toArray⟩

def mixedPacket : Packet := ⟨readBlocks mixedBytes, footerOf mixedBytes .dual⟩

theorem parse_mixedBytes : parse Sensor.Model.hdl64e.spec mixedBytes = .ok mixedPacket :=
  parse_eq_ok.2 ⟨by decide +kernel, by decide +kernel, .dual,
    by rw [wireMode_hdl64e]; exact congrArg _ (by decide +kernel), rfl⟩

theorem mixedBytes_holds_wire_fields :
    parse Sensor.Model.hdl64e.spec mixedBytes = .ok mixedPacket ∧
      HoldsWireFields .hdl64e mixedBytes mixedPacket ∧ mixedPacket.write = mixedBytes :=
  ⟨parse_mixedBytes, parse_holds_wire_fields _ _ _ parse_mixedBytes⟩

end SpinLidar.Packet
