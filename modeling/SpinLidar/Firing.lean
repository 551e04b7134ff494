import SpinLidar.ReturnMode
namespace SpinLidar

namespace Firing

def slotOffset (spec : Sensor.Spec) (slot : Nat) : Float :=
  Float.ofNat (slot / spec.channelsPerSequence) * spec.sequenceDuration +
    Float.ofNat (slot % spec.channelsPerSequence) * spec.channelInterval

def slotFraction (spec : Sensor.Spec) (slot : Nat) : Float :=
  slotOffset spec slot / spec.blockDuration

def group (spec : Sensor.Spec) (mode : ReturnMode) (b : Nat) : Nat :=
  b / ReturnMode.blocksPerGroup spec mode

def offset (spec : Sensor.Spec) (mode : ReturnMode) (b s r : Nat) : Float :=
  (Float.ofNat (group spec mode b) * spec.blockDuration + slotOffset spec s) +
    Float.ofNat r * spec.interReturnDelay

def order (spec : Sensor.Spec) (bank : Int) : Except Fault (List Nat) :=
  if 0 ≤ bank ∧ bank < spec.banks then
    let first := bank.toNat * Sensor.bankChannelOffset
    .ok (List.range' first spec.channelsPerSequence)
  else .error (.bankOutOfRange spec.banks bank)

/-- The channel sampled in each slot of a block of the given bank. The bank is not checked. -/
def slotChannels (spec : Sensor.Spec) (bank : Int) : List Int :=
  (List.range Sensor.samplesPerBlock).map fun s =>
    bank * Sensor.bankChannelOffset + (s % spec.channelsPerSequence : Nat)

def slotOf (spec : Sensor.Spec) (channel sequence : Int) : Except Fault Nat :=
  if ¬ (0 ≤ channel ∧ channel < spec.channelCount) then
    .error (.decode (.channelOutOfRange channel spec.channelCount))
  else if ¬ (0 ≤ sequence ∧ sequence < spec.sequencesPerBlock) then
    .error (.sequenceOutOfRange spec.sequencesPerBlock sequence)
  else
    .ok (sequence.toNat * spec.channelsPerSequence + channel.toNat % spec.channelsPerSequence)

def modeOf (code : Int) : Except Fault ReturnMode :=
  match ReturnMode.ofCode? code with
  | some m => .ok m
  | none => .error (.notAReturnMode code)

def offsetOf (spec : Sensor.Spec) (block channel returnIndex sequence code : Int) :
    Except Fault Float := do
  if ¬ (0 ≤ block ∧ block < Sensor.blocksPerPacket) then
    throw (.blockOutOfRange Sensor.blocksPerPacket block)
  if ¬ (0 ≤ returnIndex ∧ returnIndex < 2) then
    throw (.returnIndexOutOfRange returnIndex)
  let slot ← slotOf spec channel sequence
  let mode ← modeOf code
  return offset spec mode block.toNat slot returnIndex.toNat

def fractionOf (spec : Sensor.Spec) (channel sequence : Int) : Except Fault Float :=
  (slotOf spec channel sequence).map (slotFraction spec)

def table (spec : Sensor.Spec) (mode : ReturnMode) : List (List (List Float)) :=
  (List.range Sensor.blocksPerPacket).map fun b =>
    (List.range Sensor.samplesPerBlock).map fun s => [offset spec mode b s 0, offset spec mode b s 1]

end Firing

end SpinLidar
