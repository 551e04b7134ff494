import SpinLidar.Text.Numeral
namespace SpinLidar

def divRoundEven (n d : Nat) : Nat :=
  let q := n / d
  let r := n % d
  if 2 * r > d then q + 1
  else if 2 * r = d then q + q % 2
  else q

def Float.roundPlaces (x : Float) (places : Nat) : Float :=
  match Binary.ofFloat x with
  | .finite neg m e =>
    let scaled := m * Nat.pow 10 places
    let q := if 0 ≤ e then scaled * Nat.pow 2 e.toNat else divRoundEven scaled (Nat.pow 2 (-e).toNat)
    Text.decimalToFloat neg q (-(places : Int))
  | _ => x

end SpinLidar
