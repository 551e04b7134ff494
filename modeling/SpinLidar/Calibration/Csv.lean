import SpinLidar.Calibration.Basic
import SpinLidar.Text.Numeral
namespace SpinLidar

namespace Calibration

namespace Csv

def lines (text : String) : List String :=
  let rec go (cs : List Char) (cur : List Char) (acc : List String) : List String :=
    match cs with
    | [] => (String.ofList cur.reverse :: acc).reverse
    | '\r' :: '\n' :: rest => go rest [] (String.ofList cur.reverse :: acc)
    | '\r' :: rest => go rest [] (String.ofList cur.reverse :: acc)
    | '\n' :: rest => go rest [] (String.ofList cur.reverse :: acc)
    | c :: rest => go rest (c :: cur) acc
  go text.toList [] []

/-- A row of a table: column names paired with numbers. A name given twice keeps its later
value. -/
abbrev Row := List (String × Float)

def Row.get? (r : Row) (k : String) : Option Float :=
  (r.reverse.find? (·.1 == k)).map (·.2)

def Row.set (r : Row) (k : String) (v : Float) : Row :=
  r.filter (·.1 != k) ++ [(k, v)]

def Row.erase (r : Row) (k : String) : Row :=
  r.filter (·.1 != k)

def cells (line : String) : List String := (line.toList.splitOn ',').map String.ofList

def readRow (file : String) (header : List String) (line : String) : Except Fault Row := do
  let cells ← (cells line).mapM fun cell =>
    match Text.readFloat? cell with
    | some x => .ok x
    | none => .error (.calibration (.nonNumeric file cell))
  return header.zip cells

def renameLegacy (r : Row) : Row :=
  let r := match r.get? "azimuth_offset_deg" with
    | some v => (r.erase "azimuth_offset_deg").set "rotational_correction_deg" (-v)
    | none => r
  match r.get? "elevation_offset_deg" with
  | some v => (r.erase "elevation_offset_deg").set "vertical_angle_deg" v
  | none => r

/-- The entry of one row. The distance corrections along x and y default to the overall
distance correction; intensity limits are truncated to integers. -/
def entryOfRow (file : String) (r : Row) : Except Fault Entry := do
  let r := renameLegacy r
  let some vertical := r.get? "vertical_angle_deg"
    | throw (.calibration (.noVerticalAngle file))
  let dist := (r.get? "distance_correction_m").getD 0.0
  let minI ← Fault.truncInt ((r.get? "min_intensity").getD 0.0)
  let maxI ← Fault.truncInt ((r.get? "max_intensity").getD 255.0)
  return { verticalAngle := vertical
           rotationalCorrection := (r.get? "rotational_correction_deg").getD 0.0
           distanceCorrection := dist
           distanceCorrectionX := (r.get? "distance_correction_x_m").getD dist
           distanceCorrectionY := (r.get? "distance_correction_y_m").getD dist
           verticalOffset := (r.get? "vertical_offset_m").getD 0.0
           horizontalOffset := (r.get? "horizontal_offset_m").getD 0.0
           focalDistance := (r.get? "focal_distance_m").getD 0.0
           focalSlope := (r.get? "focal_slope").getD 0.0
           minIntensity := minI
           maxIntensity := maxI }

def read (file text : String) : Except Fault Calibration := do
  let ls := (lines text).map Text.trim |>.filter (· ≠ "")
  match ls with
  | [] | [_] => throw (.calibration (.noRows file))
  | first :: body =>
    let header := (cells first).map Text.trim
    if !header.contains "laser_id" then throw (.calibration (.noLaserIdColumn file))
    let rows ← body.mapM (readRow file header)
    let ids ← rows.mapM fun r =>
      match r.get? "laser_id" with
      | some v => Fault.truncInt v
      | none => .error (.missingColumn "laser_id")
    if !idsInOrder ids then throw (.calibration (.laserIdsOutOfOrder ids.length file))
    let entries ← rows.mapM (entryOfRow file)
    (make entries.toArray defaultResolution file).mapError .calibration

end Csv

end Calibration

end SpinLidar
