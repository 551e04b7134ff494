namespace SpinLidar

namespace Yaml

/-- A node of a document: a scalar with its tag and text, or a collection with its tag and its
items or key-value pairs in order. -/
inductive Node where
  | scalar (tag text : String)
  | sequence (tag : String) (items : List Node)
  | mapping (tag : String) (pairs : List (Node × Node))
deriving Inhabited

namespace Node

def tag : Node → String
  | .scalar t _ => t
  | .sequence t _ => t
  | .mapping t _ => t

end Node

namespace Tag

def standard : String := "tag:yaml.org,2002:"

def null : String := standard ++ "null"
def bool : String := standard ++ "bool"
def int : String := standard ++ "int"
def float : String := standard ++ "float"
def str : String := standard ++ "str"
def seq : String := standard ++ "seq"
def map : String := standard ++ "map"
def merge : String := standard ++ "merge"
def value : String := standard ++ "value"
def timestamp : String := standard ++ "timestamp"

end Tag

namespace Resolve

def isDigitOrUnderscore (c : Char) : Bool := c.isDigit || c = '_'

def dropSign : List Char → List Char
  | c :: rest => if c = '-' || c = '+' then rest else c :: rest
  | [] => []

def optionalExponent : List Char → Bool
  | [] => true
  | e :: s :: ds => (e = 'e' || e = 'E') && (s = '-' || s = '+') && !ds.isEmpty && ds.all Char.isDigit
  | _ => false

def sexagesimalThen (finish : List Char → Bool) : List Char → Bool
  | ':' :: a :: rest =>
    let one := a.isDigit && (finish rest || sexagesimalThen finish rest)
    let two := match rest with
      | b :: more => ('0' ≤ a && a ≤ '5') && b.isDigit && (finish more || sexagesimalThen finish more)
      | [] => false
    one || two
  | _ => false

def digitsThen (finish : List Char → Bool) : List Char → Bool
  | d :: rest => d.isDigit && finish (rest.dropWhile isDigitOrUnderscore)
  | [] => false

def fractionThen (cs : List Char) : Bool :=
  match cs with
  | '.' :: frac => optionalExponent (frac.dropWhile isDigitOrUnderscore)
  | _ => false

/-- Floats: `1.5`, `1.`, `1.5e+3`, `.5`, `1:30.5`, `.inf`, `-.inf`, `.nan` (with underscores
among the digits). An exponent needs a sign and the mantissa a point. -/
def isFloat (s : String) : Bool :=
  let cs := s.toList
  let unsigned := dropSign cs
  digitsThen fractionThen unsigned ||
  (match cs with
   | '.' :: d :: rest => d.isDigit && optionalExponent (rest.dropWhile isDigitOrUnderscore)
   | _ => false) ||
  digitsThen (sexagesimalThen fun r => match r with
    | '.' :: frac => frac.all isDigitOrUnderscore
    | _ => false) unsigned ||
  (unsigned == ".inf".toList || unsigned == ".Inf".toList || unsigned == ".INF".toList) ||
  (cs == ".nan".toList || cs == ".NaN".toList || cs == ".NAN".toList)

def isInt (s : String) : Bool :=
  let cs := dropSign s.toList
  (match cs with
   | '0' :: 'b' :: rest => !rest.isEmpty && rest.all (fun c => c = '0' || c = '1' || c = '_')
   | _ => false) ||
  (match cs with
   | '0' :: rest => !rest.isEmpty && rest.all (fun c => ('0' ≤ c && c ≤ '7') || c = '_')
   | _ => false) ||
  cs == ['0'] ||
  (match cs with
   | d :: rest => '1' ≤ d && d ≤ '9' && rest.all isDigitOrUnderscore
   | [] => false) ||
  (match cs with
   | '0' :: 'x' :: rest => !rest.isEmpty && rest.all (fun c => c.isDigit ||
       ('a' ≤ c && c ≤ 'f') || ('A' ≤ c && c ≤ 'F') || c = '_')
   | _ => false) ||
  (match cs with
   | d :: rest => '1' ≤ d && d ≤ '9' && sexagesimalThen List.isEmpty (rest.dropWhile isDigitOrUnderscore)
   | [] => false)

def boolWords : List String :=
  ["yes", "Yes", "YES", "no", "No", "NO", "true", "True", "TRUE", "false", "False", "FALSE",
   "on", "On", "ON", "off", "Off", "OFF"]

def nullWords : List String := ["~", "null", "Null", "NULL", ""]

/-- The tag of a plain scalar, from its text. The rules are tried in a fixed order, and only
those that can match the first character. -/
def implicit (s : String) : String :=
  let c := s.toList.headD ' '
  if s.isEmpty then Tag.null
  else if "yYnNtTfFoO".contains c && boolWords.contains s then Tag.bool
  else if "-+0123456789.".contains c && isFloat s then Tag.float
  else if "-+0123456789".contains c && isInt s then Tag.int
  else if s == "<<" then Tag.merge
  else if "~nN".contains c && nullWords.contains s then Tag.null
  else if s == "=" then Tag.value
  else Tag.str

end Resolve

end Yaml

end SpinLidar
