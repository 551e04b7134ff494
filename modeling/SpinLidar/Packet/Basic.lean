import SpinLidar.ReturnMode
namespace SpinLidar

namespace Packet

def upperBankFlag : Nat := 0xEEFF

def lowerBankFlag : Nat := 0xDDFF

def blockSize : Nat := 100

def footerOffset : Nat := 1200

def byteAt (buf : ByteArray) (i : Nat) : Nat :=
  if h : i < buf.size then buf[i].toNat else 0

def le16 (buf : ByteArray) (i : Nat) : Nat :=
  byteAt buf i + 256 * byteAt buf (i + 1)

def le32 (buf : ByteArray) (i : Nat) : Nat :=
  le16 buf i + 65536 * le16 buf (i + 2)

def pushLE (out : ByteArray) (v : Nat) : Nat → ByteArray
  | 0 => out
  | width + 1 => pushLE (out.push (UInt8.ofNat (v % 256))) (v / 256) width

end Packet

/-- One block of a packet: bank flag, azimuth in hundredths of a degree, and the raw distance
(in distance units) and reflectivity of each of its 32 samples. -/
structure Block where
  flag : Nat
  azimuth : Nat
  distances : Array Nat
  reflectivities : Array Nat
deriving Repr, Inhabited

namespace Block

def bank (b : Block) : Nat :=
  if b.flag = Packet.upperBankFlag then 0 else 1

def isBankFlag (flag : Nat) : Bool :=
  flag == Packet.upperBankFlag || flag == Packet.lowerBankFlag

def read (buf : ByteArray) (i : Nat) : Block :=
  let base := Packet.blockSize * i
  { flag := Packet.le16 buf base
    azimuth := Packet.le16 buf (base + 2)
    distances := (Array.range Sensor.samplesPerBlock).map fun j => Packet.le16 buf (base + 4 + 3 * j)
    reflectivities :=
      (Array.range Sensor.samplesPerBlock).map fun j => Packet.byteAt buf (base + 6 + 3 * j) }

def write (b : Block) : ByteArray :=
  let head := Packet.pushLE (Packet.pushLE ByteArray.empty b.flag 2) b.azimuth 2
  (List.range Sensor.samplesPerBlock).foldl (fun out j =>
    Packet.pushLE (Packet.pushLE out (b.distances.getD j 0) 2) (b.reflectivities.getD j 0) 1) head

end Block

/-- The footer of a parsed packet: timestamp in microseconds past the hour, the return mode,
the product byte, and the two footer bytes as the status channel reads them. -/
structure Footer where
  timestamp : Nat
  returnMode : ReturnMode
  productId : Nat
  statusBytes : Nat × Nat
deriving Repr

namespace Footer

def write (timestamp modeByte productId : Nat) : ByteArray :=
  Packet.pushLE (Packet.pushLE (Packet.pushLE ByteArray.empty timestamp 4) modeByte 1) productId 1

end Footer

/-- A parsed packet: its twelve blocks and its footer. -/
structure Packet where
  blocks : Array Block
  footer : Footer
deriving Repr

namespace Packet

/-- The bytes of a parsed packet in the wire layout: its blocks in order, then the footer with
the raw mode byte, which the status channel keeps even where the mode is read from the blocks. -/
def write (p : Packet) : ByteArray :=
  p.blocks.foldl (fun out b => out ++ b.write) ByteArray.empty ++
    Footer.write p.footer.timestamp p.footer.statusBytes.1 p.footer.productId

end Packet

end SpinLidar
