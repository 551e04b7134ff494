import SpinLidar.Status.Accumulator
namespace SpinLidar

namespace Status

def word16 (v : Int) : List Int :=
  let u := v % 65536
  [u % 256, u / 256]

def defaultRecord (laser : Nat) : List Int :=
  let l : Int := laser
  [l] ++ ([200 - 50 * l, -400 + l, 1200 + l, 1100, 1150, 200, if laser % 2 = 1 then -26 else 26,
    1500, 12].flatMap word16) ++ [5, 250]

/-- The sensor state sent when none is given: 600 rpm, a full field of view, 1234 hours, source
192.168.3.43, broadcast destination, both returns, automatic normalized power. -/
def defaultState : List Int :=
  [600, 0, 35999, 1234].flatMap word16 ++ [192, 168, 3, 43, 255, 255, 255, 255, 2, 0, 0xA8, 0, 0]

/-- What one sequence sends: the header values every cycle repeats, the unit payload, each
laser's record and warning flags, the calibration date cycle and the sensor state. -/
structure Contents where
  header : List Int
  unit : List Int
  record : Nat → List Int
  warning : Nat → Int
  calibrationIds : List Int
  calibrationValues : List Int
  state : List Int

namespace Contents

/-- The contents sent when nothing is given: 07:08:09 on 2024-05-06 with GPS in sync, 38 °C,
firmware 4.07; thresholds 30 and 40; pps and lens warnings; calibrated 2023-12-31 23:59:58 at
17 % humidity. -/
def standard : Contents where
  header := [7, 8, 9, 6, 5, 24, 0x41, 38, 0x47]
  unit := [0x55, 0x4E, 0x49, 0x54, 0x23, 0x1E, 0x28]
  record := defaultRecord
  warning := fun _ => 0x21
  calibrationIds := [0x31, 0x32, 0x33, 0x34, 0x35, 0x36, 0x37]
  calibrationValues := [0x17, 0x0C, 0x1F, 0x17, 0x3B, 0x3A, 0x11]
  state := defaultState

def ints (ids : List Nat) : List Int := ids.map fun (i : Nat) => (i : Int)

def cycle (c : Contents) (ids values : List Int) : List (Int × Int) :=
  (ints Ids.header).zip c.header ++ ids.zip values

def laserCycles (c : Contents) (laser : Nat) : List (List (Int × Int)) :=
  let r := c.record laser
  let parts := [r.take 7, (r.drop 7).take 7, (r.drop 14).take 7].map (c.cycle (ints Ids.standard))
  if laser + 1 < laserCount then parts ++ [c.cycle (ints Ids.warning) [c.warning laser, 0, 0, 0, 0, 0, 0]]
  else parts

def cycles (c : Contents) : List (List (Int × Int)) :=
  [c.cycle (ints Ids.unit) c.unit] ++
  (List.range laserCount).flatMap c.laserCycles ++
  [c.cycle c.calibrationIds c.calibrationValues] ++
  (List.range 3).map fun k => c.cycle (ints (Ids.sensorState.getD k [])) ((c.state.drop (7 * k)).take 7)

end Contents

/-- Damage done to a sequence: cycles swapped, pairs overwritten with an (id, value), pairs
lost (numbered before any is lost), and the cut kept. -/
structure Damage where
  swaps : List (Int × Int)
  sets : List (Int × Int × Int)
  drops : List Int
  start : Option Int
  stop : Option Int

def position (n : Nat) (i : Int) : Option Nat :=
  let j := if i < 0 then i + n else i
  if 0 ≤ j && j < n then some j.toNat else none

def cutBound (n : Nat) (i : Int) : Nat :=
  let j := if i < 0 then i + n else i
  (max 0 (min j n)).toNat

def swapAt {α : Type} (xs : List α) (a b : Int) : List α :=
  match position xs.length a, position xs.length b with
  | some i, some j =>
    match xs[i]?, xs[j]? with
    | some x, some y => (xs.set i y).set j x
    | _, _ => xs
  | _, _ => xs

namespace Damage

def none : Damage := ⟨[], [], [], Option.none, Option.none⟩

def apply (d : Damage) (cycles : List (List (Int × Int))) : List (Int × Int) :=
  let swapped := d.swaps.foldl (fun cs (a, b) => swapAt cs a b) cycles
  let pairs := swapped.flatten
  let pairs := d.sets.foldl (fun ps (i, id, v) =>
    match position ps.length i with
    | some k => ps.set k (id, v)
    | Option.none => ps) pairs
  let n := pairs.length
  let lost := d.drops.filterMap (position n)
  let pairs := (pairs.zipIdx.filter fun (_, k) => !lost.contains k).map Prod.fst
  let n := pairs.length
  let first := cutBound n (d.start.getD 0)
  let last := cutBound n (d.stop.getD n)
  (pairs.drop first).take (last - first)

end Damage

def sequencePairs (c : Contents) (d : Damage) : List (Int × Int) := d.apply c.cycles

end Status

end SpinLidar
