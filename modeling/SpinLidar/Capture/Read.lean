import SpinLidar.Capture.Basic
import SpinLidar.Fault
namespace SpinLidar

namespace Capture

/-- Which datagrams to keep: a limit on the records read, the source address and port, the
destination port, the window of times relative to the start, and the payload size. -/
structure Filters where
  maxPackets : Option Nat
  sourceIp : Option String
  sourcePort : Option Nat
  destinationPort : Nat
  timeGate : Float × Float
  payloadSize : Nat

def dataPort : Nat := 2368

def anyTime : Float × Float := (-(1.0 / 0.0), 1.0 / 0.0)

namespace Filters

def standard (payloadSize : Nat) : Filters :=
  ⟨none, none, none, dataPort, anyTime, payloadSize⟩

end Filters

/-- What becomes of a record. -/
inductive Verdict where
  | skip
  | stop
  | keep (payload : ByteArray)

def judge (f : Filters) (frame : ByteArray) (time : Float) : Verdict :=
  let type := readBig frame 12 2
  let (type, ipAt) := if type = vlanType then (readBig frame 16 2, taggedEthernetSize)
    else (type, ethernetSize)
  if type ≠ ipv4Type then .skip
  else
    let headerWords := byteAt frame ipAt % 16
    let source := dottedAddress ((List.range 4).map fun k => byteAt frame (ipAt + 12 + k))
    if byteAt frame (ipAt + 9) ≠ udpProtocol then .skip
    else
      let udpAt := ipAt + 4 * headerWords
      let sourcePort := readBig frame udpAt 2
      let destinationPort := readBig frame (udpAt + 2) 2
      let length := readBig frame (udpAt + 4) 2
      if time < f.timeGate.1 then .skip
      else if time > f.timeGate.2 then .stop
      else if f.sourceIp.any (· ≠ source) then .skip
      else if f.sourcePort.any (· ≠ sourcePort) then .skip
      else if destinationPort ≠ f.destinationPort then .skip
      else if length ≠ f.payloadSize + udpHeaderSize then .skip
      else .keep (frame.extract (udpAt + udpHeaderSize) frame.size)

def recordTime (seconds micros : Nat) : Float :=
  Float.ofNat seconds + Float.ofNat micros / 1000000.0

def recordEnd (file : ByteArray) (pos : Nat) : Nat :=
  min (pos + recordHeaderSize + readLittle file (pos + 8) 4) file.size

theorem recordEnd_advances (file : ByteArray) (pos : Nat)
    (h : ¬ file.size - pos < recordHeaderSize) :
    file.size - recordEnd file pos < file.size - pos := by
  unfold recordEnd recordHeaderSize at *
  omega

/-- Reads the records from byte `pos` on: `start` is the start time so far, `count` the records
read, `kept` the payloads kept. Gives the payloads kept before the reading ended, and the error
that ended it, if one did. Every record takes at least its header's bytes
(`recordEnd_advances`), so the size of the file is enough `fuel`. -/
def records (f : Filters) (file : ByteArray) : Nat → Nat → Float → Nat → Array ByteArray →
    Array ByteArray × Option CaptureError
  | 0, _, _, _, kept => (kept, none)
  | fuel + 1, pos, start, count, kept =>
    if f.maxPackets.any (· ≤ count) || file.size ≤ pos then (kept, none)
    else if file.size - pos < recordHeaderSize then (kept, some .recordHeaderShort)
    else
      let time := recordTime (readLittle file pos 4) (readLittle file (pos + 4) 4)
      let frame := file.extract (pos + recordHeaderSize) (recordEnd file pos)
      if frame.size < ethernetSize then (kept, some .frameHeaderShort)
      else
        let start := if start == 0.0 then time else start
        match judge f frame (time - start) with
        | .stop => (kept, none)
        | .skip => records f file fuel (recordEnd file pos) start (count + 1) kept
        | .keep payload => records f file fuel (recordEnd file pos) start (count + 1) (kept.push payload)

def scan (f : Filters) (file : ByteArray) : List ByteArray × Option CaptureError :=
  if file.size < fileHeaderSize then ([], some .fileHeaderShort)
  else
    let m := readLittle file 0 4
    if m ≠ magic then ([], some (.badMagic m))
    else
      let (kept, failure) := records f file file.size fileHeaderSize 0.0 0 #[]
      (kept.toList, failure)

def payloads (f : Filters) (file : ByteArray) : Except CaptureError (List ByteArray) :=
  match scan f file with
  | (kept, none) => .ok kept
  | (_, some e) => .error e

end Capture

namespace CaptureError

def logged : CaptureError → List String
  | .badMagic m => ["Invalid magic number in pcap file: " ++ toString m]
  | _ => []

end CaptureError

end SpinLidar
