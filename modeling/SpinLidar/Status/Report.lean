import SpinLidar.Clock
namespace SpinLidar

namespace Status

/-- The GPS state. -/
inductive Gps where
  | syncNmea
  | nmeaOnly
  | syncOnly
  | notConnected
deriving Repr, DecidableEq, Inhabited

def Gps.ofCode? : Nat → Option Gps
  | 0x41 => some .syncNmea
  | 0x56 => some .nmeaOnly
  | 0x50 => some .syncOnly
  | 0x00 => some .notConnected
  | _ => none

def Gps.name : Gps → String
  | .syncNmea => "SYNC_NMEA"
  | .nmeaOnly => "NMEA_ONLY"
  | .syncOnly => "SYNC_ONLY"
  | .notConnected => "NOT_CONNECTED"

/-- The echoes the unit is set to report. -/
inductive ReturnKind where
  | strongest
  | last
  | both
deriving Repr, DecidableEq, Inhabited

def ReturnKind.ofCode? : Nat → Option ReturnKind
  | 0 => some .strongest
  | 1 => some .last
  | 2 => some .both
  | _ => none

def ReturnKind.name : ReturnKind → String
  | .strongest => "STRONGEST"
  | .last => "LAST"
  | .both => "BOTH"

/-- How the laser power is set. -/
inductive PowerLevel where
  | autoNormalized
  | autoRaw
  | manual
deriving Repr, DecidableEq, Inhabited

def PowerLevel.name : PowerLevel → String
  | .autoNormalized => "auto_normalized"
  | .autoRaw => "auto_raw"
  | .manual => "manual"

/-- The power setting of a code, with the manual level (0 to 7) when manual. `0xA8` and `0xA0`
are the automatic settings; a manual setting has `8` in the low nibble and the level in the
high one. The nibbles are those of the code's lowest byte in two's complement. -/
def powerLevel (code : Int) : Except StatusError (PowerLevel × Option Nat) :=
  if code = 0xA8 then .ok (.autoNormalized, none)
  else if code = 0xA0 then .ok (.autoRaw, none)
  else
    let low := (code % 256).toNat
    let level := low / 16
    if low % 16 = 8 && level < 8 then .ok (.manual, some level)
    else .error (.invalidPowerLevel code)

def statusDatetime (year month day hour minute second : Int) : Except StatusError Int :=
  let year := year + 2000
  let text := Text.padded 4 10 year ++ "-" ++ Text.padded 2 10 month ++ "-" ++
    Text.padded 2 10 day ++ "T" ++ Text.padded 2 10 hour ++ ":" ++ Text.padded 2 10 minute ++
    ":" ++ Text.padded 2 10 second
  match Clock.parse text with
  | .ok (some c) => .ok c.seconds
  | _ => .error (.invalidDatetime year month day hour minute second)

/-- The unit parameters as last reported; each keeps its initial value until reported. -/
structure Report where
  datetime : Option Int
  gps : Gps
  temperature : Nat
  firmware : Nat
  lensContamination : Bool
  hot : Bool
  cold : Bool
  pps : Bool
  gpsTime : Bool
  rpm : Nat
  fovStart : Float
  fovEnd : Float
  realLifeTime : Nat
  ipSource : List Nat
  ipDest : List Nat
  returnKind : ReturnKind
  powerLevel : PowerLevel
  manualPower : Option Nat
  humidity : Nat
  upperThreshold : Nat
  lowerThreshold : Nat
  calibrationDatetime : Option Int

namespace Report

def initial : Report :=
  ⟨none, .notConnected, 0, 0, false, false, false, false, false, 0, 0.0, 0.0, 0, [0, 0, 0, 0],
    [0, 0, 0, 0], .strongest, .autoNormalized, none, 0, 0, 0, none⟩

def version (r : Report) : String :=
  toString (r.firmware / 16) ++ "." ++ Text.padded 2 10 (r.firmware % 16)

end Report

def dotted (bytes : List Nat) : String := ".".intercalate (bytes.map toString)

end Status

end SpinLidar
