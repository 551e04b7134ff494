import SpinLidar.Fault
import SpinLidar.Binary.Arith
namespace SpinLidar

namespace Clock

def isLeap (y : Int) : Bool := y % 4 = 0 && (y % 100 ≠ 0 || y % 400 = 0)

def monthDays (leap : Bool) (m : Nat) : Nat :=
  if m = 2 then (if leap then 29 else 28)
  else if m = 4 || m = 6 || m = 9 || m = 11 then 30
  else 31

/-- The days from 1970-01-01 to a date. Years are counted from March, so that the leap day ends
the year, and in eras of 400 years, which all have 146097 days. -/
def daysFromCivil (y : Int) (m d : Nat) : Int :=
  let y := if m ≤ 2 then y - 1 else y
  let era := y / 400
  let yoe := y - era * 400
  let mp : Int := (m + 9) % 12
  let doy := (153 * mp + 2) / 5 + d - 1
  let doe := yoe * 365 + yoe / 4 - yoe / 100 + doy
  era * 146097 + doe - 719468

def civilFromDays (z : Int) : Int × Nat × Nat :=
  let z := z + 719468
  let era := z / 146097
  let doe := z - era * 146097
  let yoe := (doe - doe / 1460 + doe / 36524 - doe / 146096) / 365
  let doy := doe - (365 * yoe + yoe / 4 - yoe / 100)
  let mp := (5 * doy + 2) / 153
  let d := doy - (153 * mp + 2) / 5 + 1
  let m := if mp < 10 then mp + 3 else mp - 9
  (if m ≤ 2 then yoe + era * 400 + 1 else yoe + era * 400, m.toNat, d.toNat)

/-- The fields of a date-time as read: the zone offset in minutes is still to be
subtracted. -/
structure Civil where
  year : Int
  month : Nat
  day : Nat
  hour : Nat
  minute : Nat
  second : Nat
  microsecond : Nat
  zoneMinutes : Int
deriving Repr, DecidableEq

def Civil.seconds (c : Civil) : Int :=
  ((daysFromCivil c.year c.month c.day * 24 + c.hour) * 60 + c.minute - c.zoneMinutes) * 60 +
    c.second

def Civil.micros (c : Civil) : Int := c.seconds * 1000000 + c.microsecond

def isSpaceByte (b : Nat) : Bool := b = 32 || (9 ≤ b && b ≤ 13)

def isDigitByte (b : Nat) : Bool := 48 ≤ b && b ≤ 57

def twoDigits : List Nat → Option (Nat × List Nat)
  | a :: b :: rest =>
    if isDigitByte a && isDigitByte b then some ((a - 48) * 10 + (b - 48), rest) else none
  | _ => none

def bytesValue (ds : List Nat) : Nat := ds.foldl (fun acc b => acc * 10 + (b - 48)) 0

def takeDigits (n : Nat) (bs : List Nat) : List Nat × List Nat :=
  let ds := (bs.take n).takeWhile isDigitByte
  (ds, bs.drop ds.length)

def failAt (text : String) (total : Nat) (rest : List Nat) : ClockError :=
  .unreadable text (total - rest.length)

def readZone (text : String) (total : Nat) (c : Civil) (rest : List Nat) : Except ClockError Civil := do
  let rest := rest.dropWhile isSpaceByte
  match rest with
  | [] => return c
  | 90 :: [] => return c
  | b :: more =>
    let (c, rest) ← if b = 90 then pure (c, more)
      else if b = 43 || b = 45 then do
        let some (h, r) := twoDigits more | throw (failAt text total more)
        if h ≥ 24 then throw (.zoneHourOutOfRange text)
        let (m, r) ← if r.isEmpty then pure (0, r) else do
          let r := match r with
            | 58 :: r' => r'
            | _ => r
          let some (m, r) := twoDigits r | throw (failAt text total r)
          if m ≥ 60 then throw (.zoneMinuteOutOfRange text)
          pure (m, r)
        let offset : Int := h * 60 + m
        pure ({ c with zoneMinutes := if b = 45 then -offset else offset }, r)
      else pure (c, rest)
    let rest := rest.dropWhile isSpaceByte
    if rest.isEmpty then return c else throw (failAt text total rest)

def readFraction (text : String) (total : Nat) (c : Civil) (rest : List Nat) : Except ClockError Civil :=
  let (us, rest) := takeDigits 6 rest
  let c := { c with microsecond := bytesValue us * Nat.pow 10 (6 - us.length) }
  let more := fun (r : List Nat) => match r with
    | b :: _ => isDigitByte b
    | [] => false
  if !more rest then readZone text total c rest
  else
    let (_, rest) := takeDigits 6 rest
    if !more rest then readZone text total c rest
    else readZone text total c (takeDigits 6 rest).2

def readTime (text : String) (total : Nat) (c : Civil) (rest : List Nat) : Except ClockError Civil := do
  let some (h, rest) := twoDigits rest | throw (failAt text total rest)
  if h ≥ 24 then throw (.hourOutOfRange text)
  let c := { c with hour := h }
  let 58 :: rest := rest | readZone text total c rest
  if rest.isEmpty then throw (failAt text total rest)
  let some (mi, rest) := twoDigits rest | throw (failAt text total rest)
  if mi ≥ 60 then throw (.minuteOutOfRange text)
  let c := { c with minute := mi }
  let 58 :: rest := rest | readZone text total c rest
  if rest.isEmpty then throw (failAt text total rest)
  let some (s, rest) := twoDigits rest | throw (failAt text total rest)
  if s ≥ 60 then throw (.secondOutOfRange text)
  let c := { c with second := s }
  let 46 :: rest := rest | readZone text total c rest
  readFraction text total c rest

def parse (text : String) : Except ClockError (Option Civil) := do
  let bytes := text.toUTF8.toList.map UInt8.toNat
  let total := bytes.length
  let lower := bytes.map fun b => if 65 ≤ b && b ≤ 90 then b + 32 else b
  if total = 0 || lower == [110, 97, 116] then return none
  let rest := bytes.dropWhile isSpaceByte
  let rest := match rest with
    | 45 :: r => r
    | r => r
  if rest.isEmpty then throw (failAt text total rest)
  let digits := rest.takeWhile isDigitByte
  let rest := rest.drop digits.length
  let magnitude : Int := bytesValue digits
  let year := if bytes.head? = some 45 then -magnitude else magnitude
  let c : Civil := ⟨year, 1, 1, 0, 0, 0, 0, 0⟩
  let 45 :: rest := rest | if rest.isEmpty then return some c else throw (failAt text total rest)
  if rest.isEmpty then throw (failAt text total rest)
  let some (m, rest) := twoDigits rest | throw (failAt text total rest)
  if m < 1 || m > 12 then throw (.monthOutOfRange text)
  let c := { c with month := m }
  let 45 :: rest := rest | if rest.isEmpty then return some c else throw (failAt text total rest)
  if rest.isEmpty then throw (failAt text total rest)
  let some (d, rest) := twoDigits rest | throw (failAt text total rest)
  if d < 1 || d > monthDays (isLeap year) m then throw (.dayOutOfRange text)
  let c := { c with day := d }
  match rest with
  | [] => return some c
  | b :: rest =>
    if b = 84 || b = 32 then return some (← readTime text total c rest)
    else throw (failAt text total (b :: rest))

def two (n : Nat) : String := Text.padded 2 10 n

/-- The date and time of day of a second count: `YYYY-MM-DDTHH:MM:SS`. Years take at least four
digits, the sign included. -/
def formatSeconds (t : Int) : String :=
  let days := t / 86400
  let r := (t - days * 86400).toNat
  let (y, m, d) := civilFromDays days
  Text.padded 4 10 y ++ "-" ++ two m ++ "-" ++ two d ++ "T" ++ two (r / 3600) ++ ":" ++
    two (r / 60 % 60) ++ ":" ++ two (r % 60)

def formatMicros (t : Int) : String :=
  let s := t / 1000000
  formatSeconds s ++ "." ++ Text.padded 6 10 (t - s * 1000000)

def hourMicros : Int := 3600000000

def offsetOf (t : Float) : Option Int :=
  match Float.roundInt t with
  | .ok n => if -Int.pow 2 63 < n && n < Int.pow 2 63 then some n else none
  | .error _ => none

def notATime : Int := -Int.pow 2 63

def wrap64 (x : Int) : Int := x.bmod (Nat.pow 2 64)

def add64 (a b : Int) : Int := if a = notATime ∨ b = notATime then notATime else wrap64 (a + b)

def gap64 (a b : Int) : Option Nat :=
  if a = notATime ∨ b = notATime ∨ wrap64 (a - b) = notATime then none
  else some (wrap64 (a - b)).natAbs

/-- The nearer of two candidates with their distances to the reference, the first of equally
near ones; a distance that is NaT is kept, as an argmin keeps the first NaT. -/
def closer (b c : Int × Option Nat) : Int × Option Nat :=
  match b.2, c.2 with
  | none, _ => b
  | some _, none => c
  | some x, some y => if y < x then c else b

/-- The time a timestamp stands for near a reference time, in 64-bit counts: the timestamp
counts microseconds past the hour before, of, or after the reference's hour, whichever lands
closest to the reference; on a tie the earliest. A timestamp without a 64-bit value gives
NaT. -/
def nearReference (reference : Int) (t : Float) : Option Int :=
  let offset := (offsetOf t).getD notATime
  let hour := reference / hourMicros
  let candidates := [hour - 1, hour, hour + 1].map fun h => add64 (wrap64 (h * hourMicros)) offset
  let scored := candidates.map fun c => (c, gap64 c reference)
  let best := (scored.foldl closer (scored.headD (0, none))).1
  if best = notATime then none else some best

def outsideTwoHours (t : Float) : Bool := t < 0.0 || t ≥ 7200000000.0

def outsideWarning : String := "Timestamps outside the expected microseconds-past-hour range"

/-- Places timestamps near a reference time given as text, each as `nearReference` does, and
gives the warnings: one when any timestamp lies outside the two hours expected. A reference
that stands for no time, or whose 64-bit count is NaT, is refused after one that cannot be
read. -/
def placeNear (reference : String) (ts : List Float) :
    Except ClockError (List (Option Int) × List String) := do
  let some r ← parse reference | throw .noReference
  let micros := wrap64 r.micros
  if micros = notATime then throw .noReference
  return (ts.map (nearReference micros), if ts.any outsideTwoHours then [outsideWarning] else [])

end Clock

end SpinLidar
