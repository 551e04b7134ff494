import SpinLidar.Calibration.Csv
import SpinLidar.Calibration.Xml
import SpinLidar.Calibration.Yaml
import SpinLidar.Calibration.Bundled
import SpinLidar.Sensor
namespace SpinLidar

namespace Calibration

abbrev FileStore := String → Option String

def baseName (path : String) : String :=
  (((path.toList.splitOn '/').map String.ofList).filter (· ≠ "")).getLastD ""

def suffix (path : String) : String :=
  let name := baseName path
  let cs := name.toList
  match (cs.zipIdx.filter (·.1 == '.')).getLast? with
  | some (_, i) => if 0 < i ∧ i + 1 < cs.length then String.ofList (cs.drop i) else ""
  | none => ""

def bundledName (m : Sensor.Model) : String :=
  (m.ident.toList.map Char.toLower |> String.ofList) ++ "_default_calibration.csv"

def bundledText : Sensor.Model → String
  | .vlp16 => vlp16Text
  | .vlp16HiRes => vlp16HiResText
  | .hdl32e => hdl32eText
  | .hdl64e => hdl64eText

def bundled (m : Sensor.Model) : Except Fault Calibration :=
  Csv.read (bundledName m) (bundledText m)

def readFile (files : FileStore) (name : String) : Except Fault String :=
  match files name with
  | some text => .ok text
  | none => .error (.missingFile name)

def loadWith (yaml : Yaml.Libraries) (files : FileStore) (name : String) :
    Except Fault Calibration := do
  let sfx := String.ofList ((suffix name).toList.map Char.toLower)
  if sfx == ".csv" then Csv.read name (← readFile files name)
  else if sfx == ".xml" then Xml.read name (← readFile files name)
  else if sfx == ".yaml" || sfx == ".yml" then Yaml.read yaml name (← readFile files name)
  else throw .unsupportedFormat

def load (files : FileStore) (name : String) : Except Fault Calibration :=
  loadWith Yaml.Libraries.standard files name

def sourceName (c : Calibration) : String := baseName c.source

end Calibration

end SpinLidar
