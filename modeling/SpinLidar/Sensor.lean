import SpinLidar.Fault
import SpinLidar.Text.LetterOrDigit
namespace SpinLidar

namespace Sensor

def blocksPerPacket : Nat := 12

def samplesPerBlock : Nat := 32

def packetSize : Nat := 1206

def bankChannelOffset : Nat := 32

/-- The supported models. -/
inductive Model where
  | vlp16
  | vlp16HiRes
  | hdl32e
  | hdl64e
deriving Repr, DecidableEq

namespace Model

def all : List Model := [.vlp16, .vlp16HiRes, .hdl32e, .hdl64e]

def name : Model → String
  | .vlp16 => "VLP-16"
  | .vlp16HiRes => "Puck Hi-Res"
  | .hdl32e => "HDL-32E"
  | .hdl64e => "HDL-64E"

def ident : Model → String
  | .vlp16 => "VLP16"
  | .vlp16HiRes => "VLP16_HIRES"
  | .hdl32e => "HDL32E"
  | .hdl64e => "HDL64E"

end Model

/-- Fixed packet layout and firing constants of one model. A block's 32 samples are split into
`sequencesPerBlock` firing sequences of `channelsPerSequence` channels; times are in
microseconds and distances in meters. -/
structure Spec where
  model : Model
  channelCount : Nat
  channelsPerSequence : Nat
  sequencesPerBlock : Nat
  banks : Nat
  productId : Option Nat
  supportsDual : Bool
  footerHasReturnMode : Bool
  distanceResolution : Float
  channelInterval : Float
  sequenceDuration : Float
  blockDuration : Float
  interReturnDelay : Float

namespace Model

/-- The constants of each model. The 64-laser model fires its upper and lower banks together
and carries status bytes in its footer, so its return mode is read from the block layout. -/
def spec : Model → Spec
  | .vlp16 => ⟨.vlp16, 16, 16, 2, 1, some 0x22, true, true, 0.002, 2.304, 55.296, 110.592, 0.0⟩
  | .vlp16HiRes =>
    ⟨.vlp16HiRes, 16, 16, 2, 1, some 0x24, true, true, 0.002, 2.304, 55.296, 110.592, 0.0⟩
  | .hdl32e => ⟨.hdl32e, 32, 32, 1, 1, some 0x21, true, true, 0.002, 1.152, 46.08, 46.08, 0.0⟩
  | .hdl64e => ⟨.hdl64e, 64, 32, 1, 2, none, true, false, 0.002, 1.5, 48.0, 48.0, 0.0⟩

/-- Lower-cases a character for name matching. This is Unicode lower-casing wherever its result
reaches ASCII: `A`–`Z`, the dotted capital `İ` (which becomes `i` and a combining dot) and the
Kelvin sign. Every other character lower-cases to a character of the same letter-or-digit
status outside ASCII, which the comparison with ASCII keys cannot tell from the character
itself, so it is kept as it is. -/
def foldChar (c : Char) : List Char :=
  if 'A' ≤ c ∧ c ≤ 'Z' then [Char.ofNat (c.toNat + 32)]
  else if c.toNat = 0x130 then ['i', Char.ofNat 0x307]
  else if c.toNat = 0x212A then ['k']
  else [c]

def nameKey (s : String) : String :=
  String.ofList ((s.toList.flatMap foldChar).filter Text.isLetterOrDigit)

def isNamedBy (m : Model) (s : String) : Bool :=
  let key := nameKey s
  key == nameKey m.ident || key == nameKey m.name

/-- The model a value names. Only a text can name a model. -/
def ofDatum (d : Datum) : Except Fault Model :=
  match d with
  | .str s =>
    match all.find? (fun m => m.isNamedBy s) with
    | some m => .ok m
    | none => .error (.unsupportedModel d)
  | _ => .error (.unsupportedModel d)

end Model

end Sensor

end SpinLidar
