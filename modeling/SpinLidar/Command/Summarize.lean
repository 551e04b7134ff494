import SpinLidar.Capture.Points
import SpinLidar.Point.Summary
import SpinLidar.Command.Flags
namespace SpinLidar

/-- The files a command can read: texts (calibrations) and binary captures, by name. -/
structure Files where
  texts : Calibration.FileStore
  captures : String → Option ByteArray

/-- The options of the summary command. -/
structure SummaryOptions where
  captureFile : Datum
  sensorModel : Datum
  calibrationFile : Datum
  sourceIp : Datum
  earliest : Datum
  latest : Datum
  savePlot : Datum
  logLevel : Datum

namespace SummaryOptions

/-- The parameters of the summary command and their defaults: the 32-laser model, its own
calibration, any source, any time from the start on, a plot, informative logging. -/
def parameters : List Flags.Parameter :=
  [⟨"pcap_file", none⟩, ⟨"sensor_model", some (.str "HDL-32E")⟩, ⟨"calibration_file", some .none⟩,
   ⟨"source_ip_addr", some .none⟩, ⟨"min_relative_time", some (.float 0.0)⟩,
   ⟨"max_relative_time", some (.float (1.0 / 0.0))⟩, ⟨"save_plot", some (.bool true)⟩,
   ⟨"log_level", some (.str "INFO")⟩]

def ofValues (vs : List Datum) : SummaryOptions :=
  let v := fun (k : Nat) => vs.getD k (((parameters.getD k ⟨"", none⟩).default).getD .none)
  ⟨v 0, v 1, v 2, v 3, v 4, v 5, v 6, v 7⟩

def standard (captureFile : String) : SummaryOptions := ofValues [.str captureFile]

end SummaryOptions

def packetSize : Nat := 1206

def nameOf : Datum → String
  | .str s => s
  | d => d.literal

def boundOf (comparison : String) : Datum → Except Fault Float
  | .float x => .ok x
  | .int n => .ok (Float.ofInt n)
  | .bool b => .ok (if b then 1.0 else 0.0)
  | d => .error (.unorderable comparison "float" d.typeName)

def summarizeCapture (files : Files) (o : SummaryOptions) : Capture.Logged Summary :=
  let prepared : Except Fault (Decoder × ByteArray × Float × Float) := do
    match o.logLevel with
    | .str _ => pure ()
    | other => throw (.noAttribute other.typeName "upper")
    let model ← Sensor.Model.ofDatum o.sensorModel
    let cal ← match o.calibrationFile with
      | .none => pure none
      | name => (Calibration.load files.texts (nameOf name)).map some
    let d ← Decoder.make model cal
    let name := nameOf o.captureFile
    let some file := files.captures name | throw (.missingFile name)
    return (d, file, ← boundOf "<" o.earliest, ← boundOf ">" o.latest)
  match prepared with
  | .error e => ⟨.error e, []⟩
  | .ok (d, file, earliest, latest) =>
    let source := match o.sourceIp with
      | .none => none
      | ip => some (nameOf ip)
    let filters := { Capture.Filters.standard packetSize with
      sourceIp := source, timeGate := (earliest, latest) }
    let r := Capture.points d filters file none
    ⟨r.result.bind summarize, r.warnings⟩

namespace Summary

def fields (s : Summary) : List (String × Datum) :=
  [("num_points", .int s.points), ("duration_seconds", .float s.durationSeconds),
   ("num_channels", .int s.channels), ("min_points_per_channel", .int s.fewestPerChannel),
   ("max_points_per_channel", .int s.mostPerChannel), ("median_range_meters", .float s.medianRange)]

end Summary

namespace Command

def dataText : Datum → String
  | .float x => FloatFormat.interchange.render x
  | d => d.literal

def fieldLines (fs : List (String × Datum)) : String :=
  let width := fs.foldl (fun w (k, _) => max w k.length) 0 + 1
  "\n".intercalate (fs.map fun (k, v) =>
    let label := k ++ ":"
    label ++ String.ofList (List.replicate (width - label.length) ' ') ++ " " ++ dataText v)

/-- What a command line printed and its exit status. -/
structure Printed where
  status : Nat
  output : String

def refused : Printed := ⟨2, ""⟩

def splitMember (args : List String) : List String × Option (List String) :=
  match args.idxOf? "-" with
  | some k => (args.take k, some (args.drop (k + 1)))
  | none => (args, none)

def splitOwn (args : List String) : List String × List String :=
  match args.reverse.idxOf? "--" with
  | some k => (args.take (args.length - 1 - k), args.drop (args.length - k))
  | none => (args, [])

def filesNamed (args : List String) : List String :=
  match Flags.bind SummaryOptions.parameters (splitMember (splitOwn args).1).1 with
  | .ok b =>
    let o := SummaryOptions.ofValues b.values
    nameOf o.captureFile :: match o.calibrationFile with
      | .none => []
      | n => [nameOf n]
  | .error _ => []

/-- Runs the summary command on a command line. Arguments after a last lone `--` are options of
the command line itself, of which only `-v` and `--verbose` are understood. -/
def summarize (files : Files) (args : List String) : Capture.Logged Printed :=
  let (args, own) := splitOwn args
  if !own.all (fun a => a == "-v" || a == "--verbose") then ⟨.ok refused, []⟩
  else
    let (mine, member) := splitMember args
    match Flags.bind SummaryOptions.parameters mine with
    | .error _ => ⟨.ok refused, []⟩
    | .ok b =>
      let r := summarizeCapture files (SummaryOptions.ofValues b.values)
      ⟨r.result.map fun s =>
        if !b.leftover.isEmpty then refused
        else match member with
          | none | some [] => ⟨0, fieldLines s.fields ++ "\n"⟩
          | some [k] =>
            match s.fields.lookup (String.ofList (k.toList.map fun c => if c = '-' then '_' else c)) with
            | some (.float x) => ⟨0, FloatFormat.plain.render x ++ "\n"⟩
            | some v => ⟨0, v.literal ++ "\n"⟩
            | none => refused
          | some _ => refused, r.warnings⟩

end Command

end SpinLidar
