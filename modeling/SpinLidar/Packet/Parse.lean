import SpinLidar.Packet.Basic
namespace SpinLidar

namespace Packet

def readBlocks (buf : ByteArray) : Array Block :=
  (Array.range Sensor.blocksPerPacket).map (Block.read buf)

def firstUnknownFlag (blocks : Array Block) : Option (Nat × Nat) :=
  match blocks.toList.zipIdx.find? (fun (b, _) => !Block.isBankFlag b.flag) with
  | some (b, i) => some (i, b.flag)
  | none => none

def parse (spec : Sensor.Spec) (buf : ByteArray) : Except DecodeError Packet := do
  if buf.size ≠ Sensor.packetSize then
    throw (.wrongSize spec.model.name Sensor.packetSize buf.size)
  let blocks := readBlocks buf
  if let some (i, flag) := firstUnknownFlag blocks then
    throw (.unknownFlag i flag)
  let modeByte := byteAt buf (footerOffset + 4)
  let productId := byteAt buf (footerOffset + 5)
  let mode ← if spec.footerHasReturnMode then ReturnMode.resolve spec modeByte
    else pure (ReturnMode.infer spec (blocks.toList.map (·.azimuth)) (blocks.toList.map (·.flag)))
  return ⟨blocks, ⟨le32 buf footerOffset, mode, productId, (modeByte, productId)⟩⟩

end Packet

end SpinLidar
