import SpinLidar.Point.Geometry
import SpinLidar.Packet.Parse
import SpinLidar.Firing
namespace SpinLidar

/-- One decoded point. Coordinates and range in meters, azimuth in degrees, timestamp in
microseconds past the hour. -/
structure Point where
  x : Float
  y : Float
  z : Float
  distance : Float
  intensity : Nat
  reflectivity : Nat
  channel : Nat
  azimuth : Float
  timestamp : Float
  returnIndex : Nat
  numReturns : Nat
  returnType : ReturnType
  block : Nat
deriving Inhabited

namespace Synthesis

/-- A sample before projection: where it sits, what it measured and what becomes of it. -/
structure Sample where
  group : Nat
  slot : Nat
  block : Nat
  channel : Nat
  raw : Nat
  reflectivity : Nat
  choice : Choice

def groupBlocks (spec : Sensor.Spec) (mode : ReturnMode) : List (List Nat) :=
  let members := ReturnMode.groupMembers spec mode
  let per := ReturnMode.blocksPerGroup spec mode
  (List.range (Sensor.blocksPerPacket / members.length)).map fun g =>
    members.map fun m => g * per + m

def blockChannels (spec : Sensor.Spec) (blocks : Array Block) : List Int :=
  blocks.toList.flatMap fun b =>
    Firing.slotChannels spec (if b.flag = Packet.lowerBankFlag then 1 else 0)

def channelOf (spec : Sensor.Spec) (b : Block) (s : Nat) : Nat :=
  (if b.flag = Packet.lowerBankFlag then Sensor.bankChannelOffset else 0) +
    s % spec.channelsPerSequence

def samples (spec : Sensor.Spec) (p : Packet) : List Sample :=
  let mode := p.footer.returnMode
  (groupBlocks spec mode).zipIdx.flatMap fun (blocks, g) =>
    (List.range Sensor.samplesPerBlock).flatMap fun s =>
      let raws := blocks.map fun b => (p.blocks.getD b default).distances.getD s 0
      let choices := Choice.ofMembers mode raws
      (blocks.zip choices).map fun (b, c) =>
        let blk := p.blocks.getD b default
        ⟨g, s, b, channelOf spec blk s, blk.distances.getD s 0, blk.reflectivities.getD s 0, c⟩

def groupDeltas (spec : Sensor.Spec) (p : Packet) : List Float :=
  let per := ReturnMode.blocksPerGroup spec p.footer.returnMode
  let groups := (groupBlocks spec p.footer.returnMode).length
  Geometry.azimuthDeltas ((List.range groups).map fun g =>
    Float.ofNat (p.blocks.getD (g * per) default).azimuth)

def azimuthOf (spec : Sensor.Spec) (p : Packet) (deltas : List Float) (smp : Sample) : Float :=
  let centi := Float.ofNat (p.blocks.getD smp.block default).azimuth +
    Firing.slotFraction spec smp.slot * deltas.getD smp.group 0.0
  Float.floorRem (centi * 0.01) 360.0

def point (spec : Sensor.Spec) (cal : Calibration) (cast : Geometry.ByteCast) (p : Packet)
    (deltas : List Float) (smp : Sample) : Point :=
  let entry := cal.entry smp.channel
  let raw := Float.ofNat smp.raw
  let azimuth := azimuthOf spec p deltas smp
  let proj := Geometry.project entry (raw * cal.distanceResolution) azimuth
  { x := proj.x, y := proj.y, z := proj.z, distance := proj.distance
    intensity := cast.store (Geometry.clippedIntensity entry smp.reflectivity raw)
    reflectivity := smp.reflectivity
    channel := smp.channel
    azimuth := azimuth
    timestamp := Float.ofNat p.footer.timestamp +
      Firing.offset spec p.footer.returnMode smp.block smp.slot (smp.choice.returnIndex - 1)
    returnIndex := smp.choice.returnIndex
    numReturns := smp.choice.numReturns
    returnType := smp.choice.returnType
    block := smp.block }

end Synthesis

def Packet.points (spec : Sensor.Spec) (cal : Calibration) (cast : Geometry.ByteCast) (p : Packet) :
    Except DecodeError (List Point) := do
  cal.checkChannels (Synthesis.blockChannels spec p.blocks)
  let deltas := Synthesis.groupDeltas spec p
  return (Synthesis.samples spec p).filter (·.choice.keep) |>.map
    (Synthesis.point spec cal cast p deltas)

end SpinLidar
