namespace SpinLidar

namespace Capture

def magic : Nat := 0xA1B2C3D4

def fileHeaderSize : Nat := 24
def recordHeaderSize : Nat := 16

def ethernetSize : Nat := 14
def taggedEthernetSize : Nat := 18

def ipv4Type : Nat := 0x0800
def vlanType : Nat := 0x8100
def udpProtocol : Nat := 17

def udpHeaderSize : Nat := 8

def littleEndian (v : Nat) : Nat → List Nat
  | 0 => []
  | width + 1 => v % 256 :: littleEndian (v / 256) width

def bigEndian (v : Nat) (width : Nat) : List Nat := (littleEndian v width).reverse

def byteAt (bytes : ByteArray) (i : Nat) : Nat :=
  if h : i < bytes.size then bytes[i].toNat else 0

/-- The number of bytes `i .. i + width`, most significant first; missing bytes count as
zero. -/
def readBig (bytes : ByteArray) (i width : Nat) : Nat :=
  (List.range width).foldl (fun acc k => acc * 256 + byteAt bytes (i + k)) 0

/-- The number of bytes `i .. i + width`, least significant first. -/
def readLittle (bytes : ByteArray) (i width : Nat) : Nat :=
  (List.range width).foldr (fun k acc => acc * 256 + byteAt bytes (i + k)) 0

def addressBytes (dotted : String) : List Nat :=
  (dotted.splitOn ".").map fun part => part.toNat?.getD 0

def dottedAddress (bytes : List Nat) : String := ".".intercalate (bytes.map toString)

/-- One captured UDP datagram as it is written: the capture time, the addresses and ports, the
UDP length field, the IPv4 header length in 32-bit words and protocol, the VLAN tag if any, the
Ethernet type, and the payload. -/
structure Datagram where
  seconds : Nat
  micros : Nat
  sourceIp : List Nat
  destinationIp : List Nat
  sourcePort : Nat
  destinationPort : Nat
  udpLength : Nat
  headerWords : Nat
  protocol : Nat
  vlanTag : Option Nat
  etherType : Nat
  payload : ByteArray

def bytesOf (xs : List Nat) : ByteArray := ByteArray.mk (xs.map UInt8.ofNat).toArray

namespace Datagram

/-- The headers of the frame: the Ethernet header with broadcast destination, a fixed source
and the type (after the tag), the IPv4 header with zeroed options, and the UDP header. -/
def headers (d : Datagram) : List Nat :=
  let ethernet := List.replicate 6 0xFF ++ [0x60, 0x76, 0x88, 0, 0, 0] ++
    (match d.vlanTag with
     | some tci => bigEndian vlanType 2 ++ bigEndian tci 2
     | none => []) ++ bigEndian d.etherType 2
  let udpSize := udpHeaderSize + d.payload.size
  let ip := [0x40 ||| d.headerWords, 0] ++ bigEndian (4 * d.headerWords + udpSize) 2 ++
    [0, 0, 0, 0, 64, d.protocol, 0, 0] ++ d.sourceIp.take 4 ++ d.destinationIp.take 4 ++
    List.replicate (4 * d.headerWords - 20) 0
  let udp := bigEndian d.sourcePort 2 ++ bigEndian d.destinationPort 2 ++
    bigEndian d.udpLength 2 ++ [0, 0]
  ethernet ++ ip ++ udp

def frame (d : Datagram) : ByteArray := bytesOf d.headers ++ d.payload

def record (d : Datagram) : ByteArray :=
  let f := d.frame
  bytesOf (littleEndian d.seconds 4 ++ littleEndian d.micros 4 ++ littleEndian f.size 4 ++
    littleEndian f.size 4) ++ f

end Datagram

def fileHeader (magicNumber : Nat) : List Nat :=
  littleEndian magicNumber 4 ++ littleEndian 2 2 ++ littleEndian 4 2 ++ littleEndian 0 4 ++
    littleEndian 0 4 ++ littleEndian 65535 4 ++ littleEndian 1 4

def write (magicNumber : Nat) (ds : List Datagram) : ByteArray :=
  ds.foldl (fun out d => out ++ d.record) (bytesOf (fileHeader magicNumber))

end Capture

end SpinLidar
