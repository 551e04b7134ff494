import SpinLidar.Calibration.Basic
import SpinLidar.Binary.Arith
namespace SpinLidar

namespace Geometry

def crossoverDistance : Float := 25.0

def farPoint : Float := 25.04

def nearPointX : Float := 2.40

def nearPointY : Float := 1.93

/-- A projected point: its coordinates and its corrected range. -/
structure Projection where
  x : Float
  y : Float
  z : Float
  distance : Float

def project (e : Entry) (distance azimuth : Float) : Projection :=
  let distCorr := e.distanceCorrection
  let vertSin := e.verticalSin
  let vertCos := e.verticalCos
  let vertOffset := e.verticalOffset
  let horizOffset := e.horizontalOffset
  let corrected := distance + distCorr
  let rotation := Entry.radians (azimuth - e.rotationalCorrection)
  let rotSin := Float.sin rotation
  let rotCos := Float.cos rotation
  let xyDistance := corrected * vertCos - vertOffset * vertSin
  let xx := Float.abs (xyDistance * rotSin - horizOffset * rotCos)
  let yy := Float.abs (xyDistance * rotCos + horizOffset * rotSin)
  let near := corrected ≤ crossoverDistance
  let corrX := if near then
      (distCorr - e.distanceCorrectionX) * (xx - nearPointX) / (farPoint - nearPointX) +
        e.distanceCorrectionX
    else distCorr
  let corrY := if near then
      (distCorr - e.distanceCorrectionY) * (yy - nearPointY) / (farPoint - nearPointY) +
        e.distanceCorrectionY
    else distCorr
  let xyDistanceX := (distance + corrX) * vertCos - vertOffset * vertSin
  let xyDistanceY := (distance + corrY) * vertCos - vertOffset * vertSin
  { x := xyDistanceX * rotSin - horizOffset * rotCos
    y := xyDistanceY * rotCos + horizOffset * rotSin
    z := corrected * vertSin + vertOffset * vertCos
    distance := corrected }

def focalDistanceScale : Float := 131.0

def maxRawDistance : Float := 65535.0

def focalSlopeScale : Float := 256.0

def maxNaN (a b : Float) : Float :=
  if a.isNaN || b.isNaN then 0.0 / 0.0 else if a < b then b else a

def minNaN (a b : Float) : Float :=
  if a.isNaN || b.isNaN then 0.0 / 0.0 else if b < a then b else a

/-- How a cast to `uint8` stores a float in a byte. C fixes the byte only for a float whose
integer part is a byte; any other float stores as the platform's own byte, save that a NaN
stores as zero on both x86 and ARM. -/
structure ByteCast where
  store : Float → Nat
  store_lt : ∀ x, store x < 256
  store_trunc : ∀ x n, Float.truncInt x = .ok n → 0 ≤ n → n < 256 → store x = n.toNat
  store_nan : ∀ x, Binary.ofFloat x = .nan → store x = 0

def toByte (x : Float) : Nat :=
  match Float.truncInt x with
  | .ok n => (n % 256).toNat
  | .error _ => 0

def ByteCast.x86 : ByteCast where
  store := toByte
  store_lt x := by
    unfold toByte
    split <;> omega
  store_trunc x n h h0 h1 := by
    rw [toByte, h]
    dsimp only
    omega
  store_nan x h := by
    unfold toByte Float.truncInt
    rw [h]

/-- The calibrated intensity of a sample from its reflectivity and raw distance, before it is
stored in a byte: the reflectivity less the channel's floor, plus the focal compensation,
clipped to the channel's ceiling (at most 255). -/
def clippedIntensity (e : Entry) (reflectivity : Nat) (rawDistance : Float) : Float :=
  let t1 := 1.0 - e.focalDistance / focalDistanceScale
  let t2 := 1.0 - rawDistance / maxRawDistance
  let value := maxNaN (Float.ofNat reflectivity - Float.ofInt e.minIntensity) 0.0 +
    focalSlopeScale * e.focalSlope * Float.abs (t1 * t1 - t2 * t2)
  let ceiling := minNaN (Float.ofInt e.maxIntensity) 255.0
  minNaN (maxNaN value 0.0) ceiling

def intensity (e : Entry) (reflectivity : Nat) (rawDistance : Float) : Nat :=
  ByteCast.x86.store (clippedIntensity e reflectivity rawDistance)

/-- The azimuth each firing group sweeps, in hundredths of a degree: the step to the next
group's leading azimuth, modulo a full turn; the last group repeats the step before it, and a
lone group sweeps nothing. -/
def azimuthDeltas (leaders : List Float) : List Float :=
  match leaders with
  | [] => []
  | [_] => [0.0]
  | _ =>
    let steps := (leaders.zip leaders.tail).map fun (a, b) => Float.floorRem (b - a) 36000.0
    steps ++ [steps.getLastD 0.0]

end Geometry

end SpinLidar
