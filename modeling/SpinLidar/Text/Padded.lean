namespace SpinLidar

namespace Text

def upperDigits (base n : Nat) : List Char :=
  (Nat.toDigits base n).map Char.toUpper

def padded (width base : Nat) (n : Int) : String :=
  let sign := if n < 0 then "-" else ""
  let ds := upperDigits base n.natAbs
  sign ++ String.ofList (List.replicate (width - sign.length - ds.length) '0' ++ ds)

def hexLiteral (width : Nat) (n : Int) : String :=
  "0x" ++ padded width 16 n

end Text

end SpinLidar
