import SpinLidar.Decimal.Shortest
namespace SpinLidar

/-- The choices a float printer makes beyond its digits. -/
structure FloatFormat where
  /-- Leading-digit exponents `k` with `positionalFrom ≤ k < positionalTo` are written
  positionally, with at least one digit after the point. -/
  positionalFrom : Int
  positionalTo : Int
  /-- The exponent mark and the least number of exponent digits; the exponent always carries
  a sign. -/
  exponentMark : String
  exponentDigits : Nat
  nanText : String
  infinityText : String

namespace FloatFormat

def plain : FloatFormat := ⟨-4, 16, "e", 2, "nan", "inf"⟩

def interchange : FloatFormat := ⟨-4, 16, "e", 2, "NaN", "Infinity"⟩

def fill (n : Nat) (c : Char) : String := String.ofList (List.replicate n c)

def layout (fmt : FloatFormat) (ds : List Char) (k : Int) : String :=
  let n := ds.length
  if fmt.positionalFrom ≤ k ∧ k < fmt.positionalTo then
    if (n : Int) ≤ k + 1 then
      String.ofList ds ++ fill ((k + 1).toNat - n) '0' ++ ".0"
    else if 0 ≤ k then
      String.ofList (ds.take (k + 1).toNat) ++ "." ++ String.ofList (ds.drop (k + 1).toNat)
    else
      "0." ++ fill ((-k).toNat - 1) '0' ++ String.ofList ds
  else
    let mantissa := match ds with
      | [] => "0"
      | [d] => String.singleton d
      | d :: rest => String.singleton d ++ "." ++ String.ofList rest
    let expDigits := (toString k.natAbs).toList
    let padded := fill (fmt.exponentDigits - expDigits.length) '0' ++ String.ofList expDigits
    mantissa ++ fmt.exponentMark ++ (if k < 0 then "-" else "+") ++ padded

def render (fmt : FloatFormat) (x : Float) : String :=
  match Binary.ofFloat x with
  | .nan => fmt.nanText
  | .infinite neg => (if neg then "-" else "") ++ fmt.infinityText
  | .finite neg m e =>
    let sign := if neg then "-" else ""
    if m = 0 then sign ++ "0.0"
    else
      let d := Decimal.shortest m e
      let ds := (toString d.digits).toList
      sign ++ fmt.layout ds (d.exponent + ds.length - 1)

end FloatFormat

end SpinLidar
