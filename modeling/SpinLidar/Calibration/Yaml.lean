import SpinLidar.Calibration.Basic
import SpinLidar.Yaml.Construct
namespace SpinLidar

namespace Calibration

namespace Yaml

/-- One laser of the file, angles in radians. -/
structure Laser where
  laserId : Int
  rotCorrection : Float
  vertCorrection : Float
  distCorrection : Float
  distCorrectionX : Option Float
  distCorrectionY : Option Float
  vertOffsetCorrection : Float
  horizOffsetCorrection : Float
  focalDistance : Float
  focalSlope : Float
  minIntensity : Int
  maxIntensity : Int

/-- The whole file. -/
structure Config where
  lasers : List Laser
  numLasers : Option Int
  distanceResolution : Float

def Laser.entry (l : Laser) : Entry :=
  { verticalAngle := Entry.degrees l.vertCorrection
    rotationalCorrection := Entry.degrees l.rotCorrection
    distanceCorrection := l.distCorrection
    distanceCorrectionX := l.distCorrectionX.getD l.distCorrection
    distanceCorrectionY := l.distCorrectionY.getD l.distCorrection
    verticalOffset := l.vertOffsetCorrection
    horizontalOffset := l.horizOffsetCorrection
    focalDistance := l.focalDistance
    focalSlope := l.focalSlope
    minIntensity := l.minIntensity
    maxIntensity := l.maxIntensity }

def Config.countMatches (cfg : Config) : Bool :=
  match cfg.numLasers with
  | some n => n == cfg.lasers.length
  | none => true

/-- What reading a YAML calibration takes from its libraries: loading a text as a document,
which fails on a text that is no YAML, and coercing the fields of a root mapping to the
file's schema, which fails when a field is missing or does not fit its type. -/
structure Libraries where
  safeLoad : String → Except Unit Datum
  coerce : List (Datum × Datum) → Option Config

/-- Reads a calibration file written as YAML with the given libraries; `file` names it in
messages and as its source. The laser count is checked once the fields are coerced, and a
mismatch is a schema fault like a field that does not fit. -/
def read (lib : Libraries) (file text : String) : Except Fault Calibration := do
  let doc ← (lib.safeLoad (Text.universalNewlines text)).mapError fun _ => Fault.badDocument
  let .map e := doc | throw (.calibration .rootNotMapping)
  let some cfg := lib.coerce e | throw (.calibration .schema)
  if !cfg.countMatches then throw (.calibration .schema)
  let lasers := cfg.lasers.mergeSort fun a b => a.laserId ≤ b.laserId
  let ids := lasers.map (·.laserId)
  if !idsInOrder ids then throw (.calibration (.laserIdsOutOfOrder ids.length file))
  (make (lasers.map Laser.entry).toArray cfg.distanceResolution file).mapError .calibration

def isWhiteSpace (c : Char) : Bool :=
  let n := c.toNat
  (9 ≤ n && n ≤ 13) || n = 32 || n = 0x85 || n = 0xA0 || n = 0x1680 ||
    (0x2000 ≤ n && n ≤ 0x200A) || n = 0x2028 || n = 0x2029 || n = 0x202F || n = 0x205F ||
    n = 0x3000

def trimmed (s : String) : List Char :=
  ((s.toList.dropWhile isWhiteSpace).reverse.dropWhile isWhiteSpace).reverse

def signedDigits (cs : List Char) : Option Int :=
  let (neg, ds) := Text.takeSign cs
  if ds.isEmpty || !ds.all Char.isDigit then none
  else
    let n : Int := Text.digitsValue ds
    some (if neg then -n else n)

def dropZeroFraction (cs : List Char) : Option (List Char) :=
  match cs.span (· ≠ '.') with
  | (whole, '.' :: frac) => if frac.all (· = '0') then some whole else none
  | _ => none

def intOfText (s : String) : Option Int :=
  let attempt := fun (cs : List Char) =>
    (signedDigits cs).orElse fun _ => (dropZeroFraction cs).bind signedDigits
  let cs := trimmed s
  (attempt cs).orElse fun _ => (Text.dropUnderscores cs).bind attempt

def floatOfText (s : String) : Option Float :=
  let cs := trimmed s
  (Text.readFloatCore cs).orElse fun _ => (Text.dropUnderscores cs).bind Text.readFloatCore

def asInt : Datum → Option Int
  | .int n => some n
  | .bool b => some (if b then 1 else 0)
  | .float x =>
    match Float.truncInt x with
    | .ok n => if Float.ofInt n == x then some n else none
    | .error _ => none
  | .str s => intOfText s
  | _ => none

def asFloat : Datum → Option Float
  | .float x => some x
  | .int n => some (Text.decimalToFloat (n < 0) n.natAbs 0)
  | .bool b => some (if b then 1.0 else 0.0)
  | .str s => floatOfText s
  | _ => none

def field (entries : List (Datum × Datum)) (key : String) : Option Datum :=
  (entries.find? fun (k, _) => match k with
    | .str s => s == key
    | _ => false).map (·.2)

def required (entries : List (Datum × Datum)) (key : String) (read : Datum → Option α) :
    Option α :=
  (field entries key).bind read

def withDefault (entries : List (Datum × Datum)) (key : String) (d : α)
    (read : Datum → Option α) : Option α :=
  match field entries key with
  | some v => read v
  | none => some d

def nullable (entries : List (Datum × Datum)) (key : String) (read : Datum → Option α) :
    Option (Option α) :=
  match field entries key with
  | none | some .none => some none
  | some v => (read v).map some

def laserOf : Datum → Option Laser
  | .map e => do
    return { laserId := ← required e "laser_id" asInt
             rotCorrection := ← withDefault e "rot_correction" 0.0 asFloat
             vertCorrection := ← required e "vert_correction" asFloat
             distCorrection := ← withDefault e "dist_correction" 0.0 asFloat
             distCorrectionX := ← nullable e "dist_correction_x" asFloat
             distCorrectionY := ← nullable e "dist_correction_y" asFloat
             vertOffsetCorrection := ← withDefault e "vert_offset_correction" 0.0 asFloat
             horizOffsetCorrection := ← withDefault e "horiz_offset_correction" 0.0 asFloat
             focalDistance := ← withDefault e "focal_distance" 0.0 asFloat
             focalSlope := ← withDefault e "focal_slope" 0.0 asFloat
             minIntensity := ← withDefault e "min_intensity" 0 asInt
             maxIntensity := ← withDefault e "max_intensity" 255 asInt }
  | _ => none

def configOf (e : List (Datum × Datum)) : Option Config := do
  let lasers ← match field e "lasers" with
    | some (.list xs) => xs.mapM laserOf
    | _ => none
  let numLasers ← nullable e "num_lasers" asInt
  let resolution ← withDefault e "distance_resolution" defaultResolution asFloat
  return ⟨lasers, numLasers, resolution⟩

def Libraries.standard : Libraries :=
  ⟨fun text => (SpinLidar.Yaml.load text).mapError fun _ => (), configOf⟩

end Yaml

end Calibration

end SpinLidar
