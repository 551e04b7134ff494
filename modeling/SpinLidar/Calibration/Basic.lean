import SpinLidar.Fault
namespace SpinLidar

/-- Geometric and intensity corrections of one laser channel. -/
structure Entry where
  verticalAngle : Float
  rotationalCorrection : Float
  distanceCorrection : Float
  distanceCorrectionX : Float
  distanceCorrectionY : Float
  verticalOffset : Float
  horizontalOffset : Float
  focalDistance : Float
  focalSlope : Float
  minIntensity : Int
  maxIntensity : Int
deriving Inhabited

namespace Entry

def ofVertical (verticalAngle : Float) : Entry :=
  ⟨verticalAngle, 0.0, 0.0, 0.0, 0.0, 0.0, 0.0, 0.0, 0.0, 0, 255⟩

def radians (deg : Float) : Float := deg * (3.141592653589793 / 180.0)

def degrees (rad : Float) : Float := rad * (180.0 / 3.141592653589793)

def verticalSin (e : Entry) : Float := Float.sin (radians e.verticalAngle)

def verticalCos (e : Entry) : Float := Float.cos (radians e.verticalAngle)

end Entry

/-- A calibration table: one entry per channel, the distance unit in meters, and where the
table came from. It has an entry, and its unit is not zero or negative. -/
structure Calibration where
  entries : Array Entry
  distanceResolution : Float
  source : String
  size_pos : 0 < entries.size
  resolution_not_le : ¬distanceResolution ≤ 0.0

namespace Calibration

def defaultResolution : Float := 0.002

theorem defaultResolution_pos : ¬defaultResolution ≤ 0.0 := by
  decide +kernel

def make (entries : Array Entry) (distanceResolution : Float) (source : String) :
    Except CalibrationError Calibration :=
  if h : entries.isEmpty then .error .empty
  else if hr : distanceResolution ≤ 0.0 then .error .resolutionNotPositive
  else .ok ⟨entries, distanceResolution, source, Nat.pos_of_ne_zero (by simpa using h), hr⟩

def channelCount (c : Calibration) : Nat := c.entries.size

def entryFor (c : Calibration) (channel : Int) : Except DecodeError Entry :=
  if h : 0 ≤ channel ∧ channel.toNat < c.entries.size then .ok c.entries[channel.toNat]
  else .error (.channelOutOfRange channel c.entries.size)

def checkChannels (c : Calibration) (channels : List Int) : Except DecodeError Unit :=
  match channels.find? (fun ch => ch < 0 ∨ (c.entries.size : Int) ≤ ch) with
  | some ch => .error (.channelOutOfRange ch c.entries.size)
  | none => .ok ()

def idsInOrder (ids : List Int) : Bool :=
  ids == (List.range ids.length).map (fun (i : Nat) => (i : Int))

def entry (c : Calibration) (channel : Nat) : Entry := c.entries.getD channel default

end Calibration

end SpinLidar
