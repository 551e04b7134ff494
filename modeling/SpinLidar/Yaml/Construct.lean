import SpinLidar.Yaml.Compose
import SpinLidar.Datum
import SpinLidar.Binary.Arith
import SpinLidar.Text.Numeral
namespace SpinLidar

namespace Yaml

namespace Construct

def digitsIn (base : Nat) (cs : List Char) : Option Nat :=
  if cs.isEmpty then none
  else cs.foldlM (fun acc c => do
    let d ← if c.isDigit then some (c.toNat - '0'.toNat)
      else if 'a' ≤ c.toLower && c.toLower ≤ 'z' then some (c.toLower.toNat - 'a'.toNat + 10)
      else none
    if d < base then some (acc * base + d) else none) 0

def splitAt (sep : Char) (cs : List Char) : List (List Char) :=
  (String.ofList cs).splitOn (String.singleton sep) |>.map String.toList

def sign : List Char → Bool × List Char
  | '-' :: rest => (true, rest)
  | '+' :: rest => (false, rest)
  | cs => (false, cs)

/-- The integer of a text tagged as an integer. Underscores are dropped first. -/
def intOf (text : String) : Except String Int := do
  let (neg, v) := sign (text.toList.filter (· ≠ '_'))
  let signed := fun (n : Nat) => if neg then -(n : Int) else n
  let need := fun (o : Option Nat) => match o with
    | some n => Except.ok (signed n)
    | none => Except.error "invalid integer"
  match v with
  | ['0'] => return 0
  | '0' :: 'b' :: ds => need (digitsIn 2 ds)
  | '0' :: 'x' :: ds => need (digitsIn 16 ds)
  | '0' :: ds => need (digitsIn 8 ('0' :: ds))
  | [] => throw "invalid integer"
  | _ =>
    if v.contains ':' then
      let parts ← (splitAt ':' v).mapM fun p => match digitsIn 10 p with
        | some n => Except.ok n
        | none => Except.error "invalid integer"
      return signed (parts.foldl (fun acc d => acc * 60 + d) 0)
    else need (digitsIn 10 v)

/-- The float of a text tagged as a float. Underscores are dropped and letters lowered first. -/
def floatOf (text : String) : Except String Float := do
  let (neg, v) := sign ((text.toList.filter (· ≠ '_')).map Char.toLower)
  let signed := fun (x : Float) => if neg then -x else x
  if v.isEmpty then throw "invalid float"
  if v == ".inf".toList then return signed (1.0 / 0.0)
  if v == ".nan".toList then return 0.0 / 0.0
  if v.contains ':' then
    let parts ← (splitAt ':' v).mapM fun p => match Text.readFloat? (String.ofList p) with
      | some x => Except.ok x
      | none => Except.error "invalid float"
    let (total, _) := parts.reverse.foldl (fun (acc, base) d => (acc + d * base, base * 60.0))
      (0.0, 1.0)
    return signed total
  match Text.readFloat? (String.ofList v) with
  | some x => return signed x
  | none => throw "invalid float"

def boolOf (text : String) : Except String Bool :=
  let w := String.ofList (text.toList.map Char.toLower)
  if w = "yes" || w = "true" || w = "on" then .ok true
  else if w = "no" || w = "false" || w = "off" then .ok false
  else .error "invalid boolean"

def floatIsInt (x : Float) (n : Int) : Bool :=
  match Float.truncInt x with
  | .ok m => m == n && Float.ofInt m == x
  | .error _ => false

def sameKey : Datum → Datum → Bool
  | .none, .none => true
  | .str a, .str b => a == b
  | .bool a, .bool b => a == b
  | .int a, .int b => a == b
  | .bool a, .int b | .int b, .bool a => (if a then 1 else 0) == b
  | .float x, .float y => x == y || (x.isNaN && y.isNaN)
  | .float x, .int n | .int n, .float x => floatIsInt x n
  | .float x, .bool b | .bool b, .float x => x == (if b then 1.0 else 0.0)
  | _, _ => false

def insertPair (pairs : List (Datum × Datum)) (k v : Datum) : List (Datum × Datum) :=
  if pairs.any (fun (k', _) => sameKey k' k) then
    pairs.map fun (k', v') => if sameKey k' k then (k', v) else (k', v')
  else pairs ++ [(k, v)]

/-- The pairs of a mapping with its merge keys replaced by the pairs they merge, placed first.
A merge value is a mapping, or a list of mappings of which later ones come first. The `=` key
is an ordinary text key. -/
def flatten : Nat → List (Node × Node) → Except String (List (Node × Node))
  | 0, _ => .error "nesting too deep"
  | fuel + 1, pairs => do
    let mut merged : List (Node × Node) := []
    let mut kept : List (Node × Node) := []
    for (k, v) in pairs do
      if k.tag = Tag.merge then
        match v with
        | .mapping _ sub => merged := merged ++ (← flatten fuel sub)
        | .sequence _ items =>
          let subs ← items.mapM fun item => match item with
            | .mapping _ sub => flatten fuel sub
            | _ => .error "expected a mapping for merging"
          merged := merged ++ subs.reverse.flatten
        | _ => throw "expected a mapping or list of mappings for merging"
      else if k.tag = Tag.value then
        match k with
        | .scalar _ text => kept := kept ++ [(.scalar Tag.str text, v)]
        | _ => kept := kept ++ [(k, v)]
      else kept := kept ++ [(k, v)]
    return merged ++ kept

def hashable : Datum → Bool
  | .list _ | .map _ => false
  | _ => true

def value : Nat → Node → Except String Datum
  | 0, _ => .error "nesting too deep"
  | _ + 1, .scalar tag text =>
    if tag = Tag.null then .ok .none
    else if tag = Tag.bool then .bool <$> boolOf text
    else if tag = Tag.int then .int <$> intOf text
    else if tag = Tag.float then .float <$> floatOf text
    else if tag = Tag.str || tag = Tag.timestamp then .ok (.str text)
    else .error "could not determine a constructor for the tag"
  | fuel + 1, .sequence tag items =>
    if tag = Tag.seq then .list <$> items.mapM (value fuel)
    else .error "could not determine a constructor for the tag"
  | fuel + 1, .mapping tag pairs =>
    if tag = Tag.map then do
      let pairs ← flatten fuel pairs
      let entries ← pairs.foldlM (fun acc (k, v) => do
        let key ← value fuel k
        if !hashable key then throw "found unhashable key"
        let val ← value fuel v
        return insertPair acc key val) []
      return .map entries
    else .error "could not determine a constructor for the tag"

end Construct

def load (text : String) : Except String Datum := do
  let ts ← tokens text
  match ← compose ts with
  | none => return .none
  | some n => Construct.value (ts.size + 2) n

end Yaml

end SpinLidar
