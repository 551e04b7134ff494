import SpinLidar.Calibration.Basic
import SpinLidar.Markup.Document
import SpinLidar.Text.Numeral
namespace SpinLidar

namespace Calibration

namespace Xml

def centimeter : Float := 0.01

def floatOf : Option String → Except Fault Float
  | none => .error .floatOfNothing
  | some t =>
    match Text.readFloat? t with
    | some x => .ok x
    | none => .error (.notAFloat t)

def intOf : Option String → Except Fault Int
  | none => .error .integerOfNothing
  | some t =>
    match Text.readInt? t with
    | some n => .ok n
    | none => .error (.notAnInteger t)

def items (db : Markup.Element) (tag : String) : List Markup.Element :=
  match db.child? tag with
  | some node => node.childrenTagged "item"
  | none => []

/-- A field of a laser record. An absent or empty field takes its default, and is missing when
it has none. -/
def field (px : Markup.Element) (tag : String) (default : Option Float) : Except Fault Float :=
  match (px.child? tag).bind (·.text) with
  | some t => floatOf (some t)
  | none =>
    match default with
    | some d => .ok d
    | none => .error (.calibration (.missingPointField tag))

/-- The entry of one laser record with its intensity limits. The fields are read in a fixed
order, which decides the fault reported for a record with several bad fields. The distance
corrections along x and y default to the overall correction. -/
def entryOf (px : Markup.Element) (minIntensity maxIntensity : Int) : Except Fault Entry := do
  let dist ← field px "distCorrection_" (some 0.0)
  let vertical ← field px "vertCorrection_" none
  let rotational ← field px "rotCorrection_" (some 0.0)
  let distX ← field px "distCorrectionX_" (some dist)
  let distY ← field px "distCorrectionY_" (some dist)
  let vertOffset ← field px "vertOffsetCorrection_" (some 0.0)
  let horizOffset ← field px "horizOffsetCorrection_" (some 0.0)
  let focalDistance ← field px "focalDistance_" (some 0.0)
  let focalSlope ← field px "focalSlope_" (some 0.0)
  return { verticalAngle := vertical
           rotationalCorrection := rotational
           distanceCorrection := dist * centimeter
           distanceCorrectionX := distX * centimeter
           distanceCorrectionY := distY * centimeter
           verticalOffset := vertOffset * centimeter
           horizontalOffset := horizOffset * centimeter
           focalDistance := focalDistance * centimeter
           focalSlope := focalSlope
           minIntensity := minIntensity
           maxIntensity := maxIntensity }

def allPresent : List (Option α) → Option (List α)
  | [] => some []
  | none :: _ => none
  | some a :: rest => (allPresent rest).map (a :: ·)

/-- Reads a calibration database; `file` names it in messages and as its source. Missing
intensity limit lists default to `0` and `255` for every laser. -/
def read (file text : String) : Except Fault Calibration := do
  let root ← (Markup.parse text).mapError fun
    | .malformed p line column => .calibration (.unreadableMarkup file p.text line column)
    | .unknownCodec name => .unknownCodec name
    | .notTextCodec name => .notTextCodec name
    | .multiByteCodec => .multiByteCodec
  let some db := if root.tag == "DB" then some root else root.firstBelow "DB"
    | throw (.calibration (.noDatabase file))
  let resolution ← match db.child? "distLSB_" with
    | some n => do pure ((← floatOf n.text) * centimeter)
    | none => pure defaultResolution
  let points := (items db "points_").map (·.child? "px")
  let some pxs := (if points.isEmpty then none else allPresent points)
    | throw (.calibration (.noLaserPoints file))
  let ids ← pxs.mapM fun px => do Fault.truncInt (← field px "id_" none)
  if !idsInOrder ids then throw (.calibration (.laserIdsOutOfOrder ids.length file))
  let minI ← (items db "minIntensity_").mapM (intOf ·.text)
  let maxI ← (items db "maxIntensity_").mapM (intOf ·.text)
  let minI := if minI.isEmpty then List.replicate pxs.length 0 else minI
  let maxI := if maxI.isEmpty then List.replicate pxs.length 255 else maxI
  if minI.length < pxs.length || maxI.length < pxs.length then
    throw (.calibration (.intensityLimitsShort file))
  let entries ← pxs.zipIdx.mapM fun (px, i) => entryOf px (minI.getD i 0) (maxI.getD i 255)
  (make entries.toArray resolution file).mapError .calibration

end Xml

end Calibration

end SpinLidar
