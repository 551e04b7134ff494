import SpinLidar.Binary.Basic
namespace SpinLidar

/-- A positive decimal `digits · 10 ^ exponent`. -/
structure Decimal where
  digits : Nat
  exponent : Int
deriving Repr, DecidableEq

namespace Decimal

def compareScaled (a : Nat) (p : Int) (b : Nat) (f : Int) : Ordering :=
  let lhs := a * Nat.pow 10 p.toNat * Nat.pow 2 (-f).toNat
  let rhs := b * Nat.pow 2 f.toNat * Nat.pow 10 (-p).toNat
  compare lhs rhs

def floorOnGrid (m : Nat) (e p : Int) : Nat :=
  m * Nat.pow 2 e.toNat * Nat.pow 10 (-p).toNat / (Nat.pow 2 (-e).toNat * Nat.pow 10 p.toNat)

/-- The decimal exponent of the leading digit of `m · 2 ^ e` (for `m > 0`): a first guess from
the bit length, corrected by at most a few exact comparisons with powers of ten. -/
def leadingExponent (m : Nat) (e : Int) : Int :=
  let guess : Int := ((Nat.log2 m : Int) + e) * 30103 / 100000
  let up := fun (k : Int) => compareScaled 1 (k + 1) m e != .gt
  let down := fun (k : Int) => compareScaled 1 k m e == .gt
  let k₁ := if up guess then guess + 1 else guess
  let k₂ := if up k₁ then k₁ + 1 else k₁
  let k₃ := if down k₂ then k₂ - 1 else k₂
  if down k₃ then k₃ - 1 else k₃

def normalize (d : Decimal) : Decimal :=
  go d.digits d.exponent d.digits
where
  go (digits : Nat) (exponent : Int) : Nat → Decimal
    | 0 => ⟨digits, exponent⟩
    | fuel + 1 =>
      if digits ≠ 0 ∧ digits % 10 = 0 then go (digits / 10) (exponent + 1) fuel
      else ⟨digits, exponent⟩

/-- The rounding interval of the finite positive value `m · 2 ^ e`, in quarter units
`2 ^ (e - 2)`: its low end, its high end, and whether the ends belong to it. -/
structure Interval where
  low : Nat
  high : Nat
  closed : Bool

/-- The interval of reals that round to `m · 2 ^ e`: half a unit either side, but only a
quarter below when `m` is the smallest normal mantissa and a smaller unit exists below. -/
def Interval.of (m : Nat) (e : Int) : Interval :=
  let gapBelow := if m = Nat.pow 2 52 ∧ -1074 < e then 1 else 2
  ⟨4 * m - gapBelow, 4 * m + 2, m % 2 = 0⟩

def Interval.holds (iv : Interval) (f : Int) (d : Nat) (p : Int) : Bool :=
  let aboveLow := match compareScaled d p iv.low f with
    | .gt => true
    | .eq => iv.closed
    | .lt => false
  let belowHigh := match compareScaled d p iv.high f with
    | .lt => true
    | .eq => iv.closed
    | .gt => false
  aboveLow && belowHigh

def candidate (m : Nat) (e : Int) (k : Int) (n : Nat) : Option Decimal :=
  let iv := Interval.of m e
  let f := e - 2
  let p := k - (n : Int) + 1
  let lo := floorOnGrid m e p
  let hi := lo + 1
  let loIn := iv.holds f lo p
  let hiIn := iv.holds f hi p
  if loIn && hiIn then
    match compareScaled (lo + hi) p (2 * m) e with
    | .gt => some ⟨lo, p⟩
    | .lt => some ⟨hi, p⟩
    | .eq => some ⟨if lo % 2 = 0 then lo else hi, p⟩
  else if loIn then some ⟨lo, p⟩
  else if hiIn then some ⟨hi, p⟩
  else none

def search (m : Nat) (e k : Int) (n : Nat) : Nat → Option Decimal
  | 0 => none
  | fuel + 1 =>
    match candidate m e k n with
    | some d => some d
    | none => search m e k (n + 1) fuel

/-- The shortest decimal in the rounding interval of `m · 2 ^ e` (for `m > 0`), trailing zeros
removed. Seventeen digits always suffice; the fallback is never reached. -/
def shortest (m : Nat) (e : Int) : Decimal :=
  let k := leadingExponent m e
  match search m e k 1 17 with
  | some d => normalize d
  | none => normalize ⟨floorOnGrid m e (k - 16), k - 16⟩

end Decimal

end SpinLidar
