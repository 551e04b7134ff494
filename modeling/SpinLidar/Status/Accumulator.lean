import SpinLidar.Status.Report
import SpinLidar.Calibration.Basic
import SpinLidar.Packet.Parse
namespace SpinLidar

namespace Status

/-- Where the sequence is. -/
inductive Stage where
  | unit
  | lasers
  | calibrationDatetime
  | sensorState
deriving Repr, DecidableEq, Inhabited

def Stage.name : Stage → String
  | .unit => "unit"
  | .lasers => "lasers"
  | .calibrationDatetime => "calibration_datetime"
  | .sensorState => "sensor_state"

namespace Ids

def header : List Nat := [0x48, 0x4D, 0x53, 0x44, 0x4E, 0x59, 0x47, 0x54, 0x56]

def standard : List Nat := [0x31, 0x32, 0x33, 0x34, 0x35, 0x36, 0x37]

def unit : List Nat := [0x31, 0x32, 0x33, 0x34, 0x35, 0xF7, 0xF6]

def unitText : List Nat := [0x55, 0x4E, 0x49, 0x54, 0x23]

def warning : List Nat := [0x57, 0x32, 0x33, 0x34, 0x35, 0x36, 0x37]

def sensorState : List (List Nat) :=
  [[0xFE, 0xFF, 0xFC, 0xFD, 0xFA, 0xFB, 0x37], standard, [0x31, 0x32, 0xF9, 0x34, 0xF8, 0x36, 0x37]]

end Ids

def cycleLength : Nat := 16
def headerLength : Nat := 9
def laserCount : Nat := 64
def partsPerLaser : Nat := 3
def recordSize : Nat := 21

/-- The state of the accumulator: the report, whether a whole sequence has been read, the
header and payload of the cycle in progress and the position in it, the stage with the laser
and part in it, the bytes gathered for the lasers and the sensor state, and the laser records
of the last whole sequence. -/
structure Accumulator where
  report : Report
  initialized : Bool
  header : Array Nat
  cycleIds : Array Nat
  cycleValues : Array Nat
  cyclePos : Nat
  stage : Stage
  laser : Nat
  part : Nat
  laserBytes : Array (Array Nat)
  stateBytes : Array Nat
  records : Option (Array (Array Nat))

/-- What feeding did: the new state and the warnings it logged. -/
structure Fed where
  state : Accumulator
  warnings : List String

namespace Accumulator

def initial : Accumulator :=
  ⟨Report.initial, false, Array.replicate headerLength 0, Array.replicate 7 0,
    Array.replicate 7 0, 0, .unit, 0, 0, Array.replicate laserCount (Array.replicate recordSize 0),
    Array.replicate recordSize 0, none⟩

def restart (a : Accumulator) : Accumulator := { a with stage := .unit, laser := 0, part := 0 }

def resetWarning (a : Accumulator) (msg : String) : List String :=
  if a.initialized then [msg] else []

def writePart (record : Array Nat) (part : Nat) (values : List Nat) : Array Nat :=
  values.zipIdx.foldl (fun r (v, k) => r.setIfInBounds (7 * part + k) v) record

/-- The header of a cycle read: date and time, GPS state, temperature and firmware. The date
is stored before the GPS state is checked, so a refused GPS state leaves the new date. -/
def updateHeader (a : Accumulator) : Accumulator × Option StatusError :=
  let h := fun (k : Nat) => a.header.getD k 0
  match statusDatetime (h 5) (h 4) (h 3) (h 0) (h 1) (h 2) with
  | .error e => (a, some e)
  | .ok dt =>
    let a := { a with report := { a.report with datetime := some dt } }
    match Gps.ofCode? (h 6) with
    | none => (a, some (.unknownGps (h 6)))
    | some gps =>
      ({ a with report := { a.report with gps := gps, temperature := h 7, firmware := h 8 } }, none)

def u16 (r : Array Nat) (at_ : Nat) : Nat := r.getD at_ 0 + 256 * r.getD (at_ + 1) 0

/-- The sensor state of a whole sequence: return setting and power setting are checked before
anything is stored; then the laser records are kept and the status is initialized. -/
def completeSequence (a : Accumulator) : Except StatusError Accumulator := do
  let s := a.stateBytes
  let rt := s.getD 16 0
  let some kind := ReturnKind.ofCode? rt | throw (.invalidReturnType rt)
  let (power, manual) ← powerLevel (s.getD 18 0)
  let report := { a.report with
    rpm := u16 s 0
    fovStart := Float.ofNat (u16 s 2) * 0.01
    fovEnd := Float.ofNat (u16 s 4) * 0.01
    realLifeTime := u16 s 6
    ipSource := (List.range 4).map fun k => s.getD (8 + k) 0
    ipDest := (List.range 4).map fun k => s.getD (12 + k) 0
    returnKind := kind
    powerLevel := power
    manualPower := manual }
  return { a with report := report, records := some a.laserBytes, initialized := true }

/-- How a payload cycle fits the sequence. -/
inductive Step where
  | inOrder
  | outOfOrder
  | failed (e : StatusError)

/-- Advances the sequence by one payload cycle. A cycle out of order changes nothing; a cycle
with a value out of range keeps what was stored before the value was checked. -/
def consumeCycle (a : Accumulator) (ids values : List Nat) : Accumulator × Step :=
  let v := fun (k : Nat) => values.getD k 0
  match a.stage with
  | .unit =>
    if ids ≠ Ids.unit || values.take 5 ≠ Ids.unitText then (a, .outOfOrder)
    else ({ a with report := { a.report with upperThreshold := v 5, lowerThreshold := v 6 }
                   stage := .lasers, laser := 0, part := 0 }, .inOrder)
  | .lasers =>
    if a.part < partsPerLaser then
      if ids ≠ Ids.standard || (a.part = 0 && v 0 ≠ a.laser) then (a, .outOfOrder)
      else
        let bytes := a.laserBytes.modify a.laser fun r => writePart r a.part values
        let a := { a with laserBytes := bytes }
        if a.laser = laserCount - 1 && a.part = partsPerLaser - 1 then
          ({ a with stage := .calibrationDatetime }, .inOrder)
        else ({ a with part := a.part + 1 }, .inOrder)
    else if ids ≠ Ids.warning then (a, .outOfOrder)
    else
      let w := v 0
      let bit := fun (b : Nat) => w / b % 2 = 1
      ({ a with report := { a.report with lensContamination := bit 1, hot := bit 2,
                                          cold := bit 4, pps := bit 32, gpsTime := bit 64 }
                laser := a.laser + 1, part := 0 }, .inOrder)
  | .calibrationDatetime =>
    if ids ≠ Ids.standard then (a, .outOfOrder)
    else
      match statusDatetime (v 0) (v 1) (v 2) (v 3) (v 4) (v 5) with
      | .error e => (a, .failed e)
      | .ok dt =>
        ({ a with report := { a.report with calibrationDatetime := some dt, humidity := v 6 }
                  stage := .sensorState, part := 0 }, .inOrder)
  | .sensorState =>
    if some ids ≠ Ids.sensorState[a.part]? then (a, .outOfOrder)
    else
      let a := { a with stateBytes := writePart a.stateBytes a.part values }
      if a.part < Ids.sensorState.length - 1 then ({ a with part := a.part + 1 }, .inOrder)
      else
        match completeSequence a with
        | .error e => (a, .failed e)
        | .ok a => (a.restart, .inOrder)

def accepts (a : Accumulator) (id : Nat) : Bool :=
  match Ids.header.idxOf? id with
  | some k => k = a.cyclePos
  | none => headerLength ≤ a.cyclePos && a.cyclePos < cycleLength

def readHeader (a : Accumulator) : Fed :=
  match a.updateHeader with
  | (a, none) => ⟨{ a with cyclePos := headerLength }, []⟩
  | (a, some e) => ⟨{ a.restart with cyclePos := headerLength }, [e.message]⟩

def endCycle (a : Accumulator) : Fed :=
  match a.consumeCycle a.cycleIds.toList a.cycleValues.toList with
  | (a, .inOrder) => ⟨a, []⟩
  | (a, .failed e) => ⟨a.restart, [e.message]⟩
  | (a, .outOfOrder) =>
    ⟨a.restart, a.resetWarning ("Unexpected status cycle in stage " ++ a.stage.name ++ ", resetting")⟩

/-- One (id, value) pair of bytes: a pair out of place restarts the cycle; a header value is
stored, the last one with the header read; a payload pair is stored, the last one ending the
cycle. -/
def step (a : Accumulator) (id value : Nat) : Fed :=
  let pos := a.cyclePos
  if !a.accepts id then
    ⟨{ a with cyclePos := 0 }, a.resetWarning "Wrong status cycle position detected, resetting"⟩
  else if pos < headerLength then
    let a := { a with header := a.header.setIfInBounds pos value }
    if pos = headerLength - 1 then a.readHeader
    else ⟨{ a with cyclePos := pos + 1 }, []⟩
  else
    let a := { a with cycleIds := a.cycleIds.setIfInBounds (pos - headerLength) id,
                      cycleValues := a.cycleValues.setIfInBounds (pos - headerLength) value }
    if pos < cycleLength - 1 then ⟨{ a with cyclePos := pos + 1 }, []⟩
    else { a with cyclePos := 0 }.endCycle

/-- Feeds one (id, value) pair. An id or a value that is no byte is refused: the id before
anything else, the value only where it would be stored. -/
def feed (a : Accumulator) (id value : Int) : Except Fault Fed := do
  if id < 0 || id > 255 then throw .statusIdOutOfRange
  if a.accepts id.toNat && (value < 0 || value > 255) then throw .statusValueOutOfRange
  return a.step id.toNat value.toNat

def feedAll (a : Accumulator) (pairs : List (Int × Int)) : Fed × Option Fault :=
  go ⟨a, []⟩ pairs
where
  go (acc : Fed) : List (Int × Int) → Fed × Option Fault
    | [] => (acc, none)
    | (id, value) :: rest =>
      match acc.state.feed id value with
      | .ok f => go ⟨f.state, acc.warnings ++ f.warnings⟩ rest
      | .error e => (acc, some e)

def feedPackets (a : Accumulator) (packets : List ByteArray) : Fed :=
  let spec := Sensor.Model.hdl64e.spec
  let pairs := packets.filterMap fun buf =>
    match Packet.parse spec buf with
    | .ok p => some ((p.footer.statusBytes.1 : Int), (p.footer.statusBytes.2 : Int))
    | .error _ => none
  (a.feedAll pairs).1

def i16 (r : Array Nat) (at_ : Nat) : Int :=
  let v := u16 r at_
  if v ≥ 32768 then (v : Int) - 65536 else v

def recordEntry (r : Array Nat) : Entry :=
  let f := fun (k : Nat) => Float.ofInt (i16 r (1 + 2 * k))
  { verticalAngle := f 0 * 0.01
    rotationalCorrection := f 1 * 0.01
    distanceCorrection := f 2 * 0.001
    distanceCorrectionX := f 3 * 0.001
    distanceCorrectionY := f 4 * 0.001
    verticalOffset := f 5 * 0.001
    horizontalOffset := f 6 * 0.001
    focalDistance := f 7 * 0.001
    focalSlope := f 8 * 0.1
    minIntensity := r.getD 19 0
    maxIntensity := r.getD 20 0 }

def calibration (a : Accumulator) (distanceResolution : Float) : Except CalibrationError Calibration :=
  match a.records with
  | none => .error .noStatusSequence
  | some rs => Calibration.make (rs.map recordEntry) distanceResolution "HDL-64E status bytes"

end Accumulator

end Status

end SpinLidar
