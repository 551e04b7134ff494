import SpinLidar.Binary.Basic
import SpinLidar.Text.Blank
import SpinLidar.Text.Digit
namespace SpinLidar

namespace Text

def isAsciiBlank (c : Char) : Bool :=
  c = ' ' || ('\t' ≤ c && c ≤ '\r')

/-- The ASCII form of a numeral's characters: a blank becomes a space, a digit of any script the
ASCII digit of its value, and any other character outside ASCII a question mark, which no
numeral contains. -/
def asciiNumeralChar (c : Char) : Char :=
  if c.toNat < 127 then c
  else if isBlank c then ' '
  else match digitValue? c with
    | some d => Char.ofNat (48 + d)
    | none => '?'

def numeralCore (s : String) : List Char :=
  let cs := s.toList.map asciiNumeralChar
  ((cs.dropWhile isAsciiBlank).reverse.dropWhile isAsciiBlank).reverse

def dropUnderscores (cs : List Char) : Option (List Char) :=
  go ' ' cs
where
  go (prev : Char) : List Char → Option (List Char)
    | [] => if prev = '_' then none else some []
    | c :: rest =>
      if c = '_' then
        if prev.isDigit then go c rest else none
      else if prev = '_' ∧ ¬ c.isDigit then none
      else (go c rest).map (c :: ·)

def spanDigits (cs : List Char) : List Char × List Char :=
  (cs.takeWhile Char.isDigit, cs.dropWhile Char.isDigit)

def digitsValue (ds : List Char) : Nat :=
  ds.foldl (fun acc c => 10 * acc + (c.toNat - 48)) 0

def takeSign : List Char → Bool × List Char
  | '-' :: rest => (true, rest)
  | '+' :: rest => (false, rest)
  | cs => (false, cs)

/-- The float nearest to `digits · 10 ^ exponent`, ties to even. Values far outside the range of
floats are settled by their number of digits alone. -/
def decimalToFloat (neg : Bool) (digits : Nat) (exponent : Int) : Float :=
  let size : Int := (toString digits).length
  if digits = 0 then Binary.round neg 0 0 false
  else if size + exponent < -400 then Binary.round neg 0 0 false
  else if 400 < size + exponent then Binary.round neg 1 2000 false
  else if 0 ≤ exponent then Binary.round neg (digits * Nat.pow 10 exponent.toNat) 0 false
  else
    let den := Nat.pow 10 (-exponent).toNat
    let shift := Nat.log2 den + 60
    let num := digits * Nat.pow 2 shift
    Binary.round neg (num / den) (-(shift : Int)) (num % den != 0)

def spellsWord (cs : List Char) (word : String) : Bool :=
  cs.map Char.toLower == word.toList

def readFloatCore (cs : List Char) : Option Float :=
  let (neg, rest) := takeSign cs
  if spellsWord rest "inf" || spellsWord rest "infinity" then
    some (if neg then -(1.0 / 0.0) else 1.0 / 0.0)
  else if spellsWord rest "nan" then
    some (if neg then -(0.0 / 0.0) else 0.0 / 0.0)
  else
    let (whole, afterWhole) := spanDigits rest
    let (frac, afterFrac) := match afterWhole with
      | '.' :: more => spanDigits more
      | more => ([], more)
    let hasPoint := match afterWhole with
      | '.' :: _ => true
      | _ => false
    if whole.isEmpty && frac.isEmpty then none
    else
      let mantissa := digitsValue (whole ++ frac)
      let scale : Int := -(frac.length : Int)
      let body := if hasPoint then afterFrac else afterWhole
      match body with
      | [] => some (decimalToFloat neg mantissa scale)
      | e :: expPart =>
        if e = 'e' ∨ e = 'E' then
          let (eneg, edigits) := takeSign expPart
          let (ds, tail) := spanDigits edigits
          if ds.isEmpty || !tail.isEmpty then none
          else
            let ev : Int := digitsValue ds
            some (decimalToFloat neg mantissa (scale + (if eneg then -ev else ev)))
        else none

def readFloat? (s : String) : Option Float :=
  let core := numeralCore s
  if core.contains '_' then (dropUnderscores core).bind readFloatCore
  else readFloatCore core

def readInt? (s : String) : Option Int :=
  let core := numeralCore s
  let (neg, rest) := takeSign core
  match rest with
  | [] => none
  | c :: _ =>
    if !c.isDigit then none
    else match dropUnderscores rest with
      | none => none
      | some ds =>
        if ds.isEmpty || !ds.all Char.isDigit then none
        else
          let n : Int := digitsValue ds
          some (if neg then -n else n)

end Text

end SpinLidar
