import SpinLidar.Binary.Basic
namespace SpinLidar

namespace Binary

def commonScale (m₁ : Nat) (e₁ : Int) (m₂ : Nat) (e₂ : Int) : Nat × Nat × Int :=
  let e := min e₁ e₂
  (m₁ * Nat.pow 2 (e₁ - e).toNat, m₂ * Nat.pow 2 (e₂ - e).toNat, e)

end Binary

namespace Float

/-- The truncated remainder `x - n · y`, with `n` the quotient rounded toward zero; its sign is
the sign of `x`. It is exact, so it is computed on the integer parts. An infinite `x`, a zero
`y` or a NaN give NaN; an infinite `y` gives `x`. -/
def truncRem (x y : Float) : Float :=
  match Binary.ofFloat x, Binary.ofFloat y with
  | .finite nx mx ex, .finite _ my ey =>
    if my = 0 then 0.0 / 0.0
    else
      let (a, b, e) := Binary.commonScale mx ex my ey
      Binary.round nx (a % b) e false
  | .finite _ _ _, .infinite _ => x
  | _, _ => 0.0 / 0.0

/-- The floored remainder: the truncated remainder moved by `y` when its sign differs from the
sign of `y`, so that a non-zero result has the sign of `y`; a zero result takes the sign of
`y` too. A zero `y` gives NaN. -/
def floorRem (x y : Float) : Float :=
  if y == 0.0 then truncRem x y
  else
    let r := truncRem x y
    if r == 0.0 then (if y < 0.0 then -0.0 else 0.0)
    else if (y < 0.0) != (r < 0.0) then r + y
    else r

/-- Why a float has no integer value. -/
inductive IntegerFault where
  | notANumber
  | infinite
deriving Repr, DecidableEq

def truncInt (x : Float) : Except IntegerFault Int :=
  match Binary.ofFloat x with
  | .finite neg m e =>
    let n : Nat := if 0 ≤ e then m * Nat.pow 2 e.toNat else m / Nat.pow 2 (-e).toNat
    .ok (if neg then -(n : Int) else n)
  | .infinite _ => .error .infinite
  | .nan => .error .notANumber

def roundInt (x : Float) : Except IntegerFault Int :=
  match Binary.ofFloat x with
  | .finite neg m e =>
    let n : Nat :=
      if 0 ≤ e then m * Nat.pow 2 e.toNat
      else
        let s := (-e).toNat
        let q := m / Nat.pow 2 s
        let r := m % Nat.pow 2 s
        let twice := 2 * r
        if Nat.pow 2 s < twice then q + 1
        else if twice = Nat.pow 2 s ∧ q % 2 = 1 then q + 1
        else q
    .ok (if neg then -(n : Int) else n)
  | .infinite _ => .error .infinite
  | .nan => .error .notANumber

/-- The length `√(x² + y²)` rounded once. An infinite side gives infinity even beside a NaN.
The exact sum of squares is scaled by `4 ^ 60` so that its integer square root carries more
than 55 bits, and whether the root was exact rides along as the sticky bit. -/
def hypot (x y : Float) : Float :=
  match Binary.ofFloat x, Binary.ofFloat y with
  | .infinite _, _ => Float.ofBits 0x7FF0000000000000
  | _, .infinite _ => Float.ofBits 0x7FF0000000000000
  | .finite _ mx ex, .finite _ my ey =>
    let (a, b, e) := Binary.commonScale mx ex my ey
    let s := (a * a + b * b) * Nat.pow 4 60
    let q := Nat.sqrt s
    Binary.round false q (e - 60) (q * q != s)
  | _, _ => 0.0 / 0.0

end Float

end SpinLidar
