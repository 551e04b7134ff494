namespace SpinLidar

/-- What a binary64 pattern stands for: the finite value `(-1) ^ neg · m · 2 ^ e`, an infinity
or not-a-number. Zero is finite with `m = 0` and keeps its sign. -/
inductive Binary where
  | finite (neg : Bool) (m : Nat) (e : Int)
  | infinite (neg : Bool)
  | nan
deriving Repr, DecidableEq

namespace Binary

def signBit : Nat := Nat.pow 2 63

def fractionSpan : Nat := Nat.pow 2 52

def ofFloat (x : Float) : Binary :=
  let bits := x.toBits.toNat
  let neg := decide (signBit ≤ bits)
  let field := bits / fractionSpan % 2048
  let fraction := bits % fractionSpan
  if field = 2047 then
    if fraction = 0 then .infinite neg else .nan
  else if field = 0 then .finite neg fraction (-1074)
  else .finite neg (fraction + fractionSpan) ((field : Int) - 1075)

def pack (neg : Bool) (q : Nat) (u : Int) : Float :=
  let sign := if neg then signBit else 0
  if 971 < u then Float.ofBits (UInt64.ofNat (sign + 2047 * fractionSpan))
  else if q < fractionSpan then Float.ofBits (UInt64.ofNat (sign + q))
  else Float.ofBits (UInt64.ofNat (sign + (u + 1075).toNat * fractionSpan + (q - fractionSpan)))

/-- Halves `m` by `s` bits, rounding to nearest with ties to even. `sticky` says that the value
is a little above `m`, which decides a tie upwards. -/
def shiftRound (m s : Nat) (sticky : Bool) : Nat :=
  if s = 0 then m
  else
    let q := m / Nat.pow 2 s
    let r := m % Nat.pow 2 s
    let half := Nat.pow 2 (s - 1)
    if half < r then q + 1
    else if r = half ∧ (sticky ∨ q % 2 = 1) then q + 1
    else q

def unitOf (m : Nat) (e : Int) : Int :=
  max ((Nat.log2 m : Int) + e - 52) (-1074)

/-- The binary64 value nearest to `(-1) ^ neg · m · 2 ^ e`, ties to an even last bit. `sticky`
says the exact value lies a little above `m · 2 ^ e`, strictly below `(m + 1) · 2 ^ e`; it is
only exact when `m` carries two bits beyond the 53 kept. -/
def round (neg : Bool) (m : Nat) (e : Int) (sticky : Bool) : Float :=
  if m = 0 then pack neg 0 (-1074)
  else
    let u := unitOf m e
    let s := u - e
    if s ≤ 0 then pack neg (m * Nat.pow 2 (-s).toNat) u
    else
      let q := shiftRound m s.toNat sticky
      if q = Nat.pow 2 53 then pack neg (Nat.pow 2 52) (u + 1) else pack neg q u

end Binary

end SpinLidar
