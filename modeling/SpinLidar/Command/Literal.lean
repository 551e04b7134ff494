import SpinLidar.Datum
import SpinLidar.Text.Numeral
namespace SpinLidar

namespace Literal

/-- The tokens of an argument. -/
inductive Token where
  | number (value : Datum)
  | text (value : String)
  | name (value : String)
  | symbol (c : Char)
deriving Inhabited

def reserved : List String :=
  ["and", "as", "assert", "async", "await", "break", "class", "continue", "def", "del", "elif",
   "else", "except", "finally", "for", "from", "global", "if", "import", "in", "is", "lambda",
   "nonlocal", "not", "or", "pass", "raise", "return", "try", "while", "with", "yield"]

def isNameStart (c : Char) : Bool := c.isAlpha || c = '_' || c.toNat ≥ 128

def isNameChar (c : Char) : Bool := isNameStart c || c.isDigit

def isBlank (c : Char) : Bool := c = ' ' || c = '\t' || c = '\x0c' || c = '\n' || c = '\r'

def digitsAfter (ok : Char → Bool) : List Char → Option (List Char × List Char)
  | [] => some ([], [])
  | ['_'] => none
  | '_' :: c :: rest =>
    if ok c then (digitsAfter ok rest).map fun (ds, r) => (c :: ds, r) else none
  | c :: rest =>
    if ok c then (digitsAfter ok rest).map fun (ds, r) => (c :: ds, r) else some ([], c :: rest)

def digitPart (cs : List Char) : Option (List Char × List Char) :=
  match cs with
  | c :: _ => if c.isDigit then digitsAfter Char.isDigit cs else none
  | [] => none

def digitsValue (base : Nat) (ds : List Char) : Nat :=
  ds.foldl (fun acc c =>
    let d := if c.isDigit then c.toNat - 48
      else if 'a' ≤ c.toLower && c.toLower ≤ 'f' then c.toLower.toNat - 87 else 0
    acc * base + d) 0

def isHexDigit (c : Char) : Bool := c.isDigit || ('a' ≤ c.toLower && c.toLower ≤ 'f')

def radixNumber (base : Nat) (ok : Char → Bool) (cs : List Char) : Option (Datum × List Char) := do
  let (ds, rest) ← digitsAfter ok cs
  if ds.isEmpty then none
  else if (rest.head?.map isNameChar).getD false then none
  else some (.int (digitsValue base ds), rest)

def exponent (cs : List Char) : Option (Int × List Char) :=
  match cs with
  | e :: rest =>
    if e = 'e' || e = 'E' then
      let (neg, rest) := match rest with
        | '-' :: r => (true, r)
        | '+' :: r => (false, r)
        | r => (false, r)
      (digitPart rest).map fun (ds, r) =>
        let v : Int := digitsValue 10 ds
        (if neg then -v else v, r)
    else some (0, cs)
  | [] => some (0, [])

def decimalNumber (cs : List Char) : Option (Datum × List Char) := do
  let (whole, rest) ← match cs with
    | '.' :: _ => some ([], cs)
    | _ => digitPart cs
  let (fraction, pointed, rest) ← match rest with
    | '.' :: r =>
      match digitPart r with
      | some (ds, r') => some (ds, true, r')
      | none => if whole.isEmpty then none else some ([], true, r)
    | _ => some ([], false, rest)
  let hasExponent := match rest with
    | c :: _ => c = 'e' || c = 'E'
    | [] => false
  let (exp, rest) ← exponent rest
  if (rest.head?.map isNameChar).getD false then none
  else if !pointed && !hasExponent then
    if whole.all (· = '0') || whole.headD '0' ≠ '0' then some (.int (digitsValue 10 whole), rest)
    else none
  else
    let m := digitsValue 10 (whole ++ fraction)
    some (.float (Text.decimalToFloat false m (exp - fraction.length)), rest)

def number (cs : List Char) : Option (Datum × List Char) :=
  match cs with
  | '0' :: x :: rest =>
    if x = 'x' || x = 'X' then radixNumber 16 isHexDigit rest
    else if x = 'o' || x = 'O' then radixNumber 8 (fun c => '0' ≤ c && c ≤ '7') rest
    else if x = 'b' || x = 'B' then radixNumber 2 (fun c => c = '0' || c = '1') rest
    else decimalNumber cs
  | _ => decimalNumber cs

def hexEscape (n : Nat) (cs : List Char) : Option (Char × List Char) :=
  let ds := cs.take n
  if ds.length = n && ds.all isHexDigit then
    let v := digitsValue 16 ds
    if v < 0x110000 && !(0xD800 ≤ v && v < 0xE000) then some (Char.ofNat v, cs.drop n) else none
  else none

def escape (cs : List Char) : Option (List Char × List Char) :=
  match cs with
  | '\n' :: rest => some ([], rest)
  | c :: rest =>
    if c = 'n' then some (['\n'], rest)
    else if c = 't' then some (['\t'], rest)
    else if c = 'r' then some (['\r'], rest)
    else if c = '\\' || c = '\'' || c = '"' then some ([c], rest)
    else if c = 'a' then some (['\x07'], rest)
    else if c = 'b' then some (['\x08'], rest)
    else if c = 'f' then some (['\x0c'], rest)
    else if c = 'v' then some (['\x0b'], rest)
    else if c = 'x' then (hexEscape 2 rest).map fun (ch, r) => ([ch], r)
    else if c = 'u' then (hexEscape 4 rest).map fun (ch, r) => ([ch], r)
    else if c = 'U' then (hexEscape 8 rest).map fun (ch, r) => ([ch], r)
    else if c = 'N' then none
    else if '0' ≤ c && c ≤ '7' then
      let ds := (cs.take 3).takeWhile fun d => '0' ≤ d && d ≤ '7'
      some ([Char.ofNat (digitsValue 8 ds)], cs.drop ds.length)
    else some (['\\', c], rest)
  | [] => none

/-- The body of a quoted text up to its closing quote `q` (tripled when `triple`), and the rest.
A raw text keeps its backslashes, though a backslash still protects the character after it. -/
def quoted (q : Char) (triple raw : Bool) : Nat → List Char → Option (List Char × List Char)
  | 0, _ => none
  | _ + 1, [] => none
  | fuel + 1, c :: rest =>
    if c = q && (!triple || rest.take 2 = [q, q]) then
      some ([], if triple then rest.drop 2 else rest)
    else if c = '\n' && !triple then none
    else if c = '\\' then
      if raw then
        match rest with
        | d :: more => (quoted q triple raw fuel more).map fun (body, r) => ('\\' :: d :: body, r)
        | [] => none
      else do
        let (t, more) ← escape rest
        let (body, r) ← quoted q triple raw fuel more
        some (t ++ body, r)
    else (quoted q triple raw fuel rest).map fun (body, r) => (c :: body, r)

def quotedText (raw : Bool) (cs : List Char) : Option (String × List Char) :=
  match cs with
  | q :: rest =>
    if q = '\'' || q = '"' then
      let triple := rest.take 2 = [q, q]
      let body := if triple then rest.drop 2 else rest
      (quoted q triple raw (body.length + 1) body).map fun (t, r) => (String.ofList t, r)
    else none
  | [] => none

def tokens : Nat → List Char → Option (List Token)
  | 0, _ => none
  | _ + 1, [] => some []
  | fuel + 1, c :: rest =>
    if isBlank c then tokens fuel rest
    else if c = '#' then tokens fuel (rest.dropWhile (· ≠ '\n'))
    else if c.isDigit || (c = '.' && (rest.head?.map Char.isDigit).getD false) then do
      let (v, r) ← number (c :: rest)
      return .number v :: (← tokens fuel r)
    else if c = '\'' || c = '"' then do
      let (t, r) ← quotedText false (c :: rest)
      return .text t :: (← tokens fuel r)
    else if isNameStart c then
      let word := (c :: rest).takeWhile isNameChar
      let after := (c :: rest).drop word.length
      let w := String.ofList word
      let opensText := match after with
        | q :: _ => q = '\'' || q = '"'
        | [] => false
      if opensText && (w.toLower = "r" || w.toLower = "u") then do
        let (t, r) ← quotedText (w.toLower = "r") after
        return .text t :: (← tokens fuel r)
      else if opensText && ["b", "f", "br", "rb", "fr", "rf"].contains w.toLower then none
      else do return .name w :: (← tokens fuel after)
    else do return .symbol c :: (← tokens fuel rest)

/-- A value and whether it is a plain number literal, which a sign may precede. -/
structure Parsed where
  value : Datum
  isNumber : Bool

def negate : Datum → Datum
  | .int n => .int (-n)
  | .float x => .float (-x)
  | d => d

mutual

def item : Nat → List Token → Option (Parsed × List Token)
  | 0, _ => none
  | fuel + 1, .symbol s :: rest =>
    if s = '-' || s = '+' then do
      let (p, r) ← atom fuel rest
      if p.isNumber then some (⟨if s = '-' then negate p.value else p.value, false⟩, r) else none
    else atom fuel (.symbol s :: rest)
  | fuel + 1, ts => atom fuel ts

def atom : Nat → List Token → Option (Parsed × List Token)
  | 0, _ => none
  | _ + 1, .number v :: rest => some (⟨v, true⟩, rest)
  | _ + 1, .text t :: rest =>
    let more := rest.takeWhile fun tok => match tok with
      | .text _ => true
      | _ => false
    let joined := more.foldl (fun acc tok => match tok with
      | .text s => acc ++ s
      | _ => acc) t
    some (⟨.str joined, false⟩, rest.drop more.length)
  | _ + 1, .name w :: rest =>
    if w = "True" then some (⟨.bool true, false⟩, rest)
    else if w = "False" then some (⟨.bool false, false⟩, rest)
    else if w = "None" then some (⟨.none, false⟩, rest)
    else if reserved.contains w then none
    else some (⟨.str w, false⟩, rest)
  | fuel + 1, .symbol '(' :: rest => do
    let (p, r) ← item fuel rest
    match r with
    | .symbol ')' :: r' => some (p, r')
    | _ => none
  | fuel + 1, .symbol '[' :: rest => do
    let (xs, r) ← listItems fuel rest
    some (⟨.list xs, false⟩, r)
  | fuel + 1, .symbol '{' :: rest => do
    let (kvs, r) ← mapItems fuel rest
    some (⟨.map kvs, false⟩, r)
  | _, _ => none

def listItems : Nat → List Token → Option (List Datum × List Token)
  | 0, _ => none
  | _ + 1, .symbol ']' :: rest => some ([], rest)
  | fuel + 1, ts => do
    let (p, r) ← item fuel ts
    match r with
    | .symbol ']' :: r' => some ([p.value], r')
    | .symbol ',' :: r' => do
      let (xs, r'') ← listItems fuel r'
      some (p.value :: xs, r'')
    | _ => none

def mapItems : Nat → List Token → Option (List (Datum × Datum) × List Token)
  | 0, _ => none
  | _ + 1, .symbol '}' :: rest => some ([], rest)
  | fuel + 1, ts => do
    let (k, r) ← item fuel ts
    let .symbol ':' :: r := r | none
    let (v, r) ← item fuel r
    match r with
    | .symbol '}' :: r' => some ([(k.value, v.value)], r')
    | .symbol ',' :: r' => do
      let (kvs, r'') ← mapItems fuel r'
      some ((k.value, v.value) :: kvs, r'')
    | _ => none

end

def hashable : Datum → Bool
  | .list _ | .map _ => false
  | _ => true

def read (arg : String) : Datum :=
  let cs := arg.toList
  let startsBlank := (cs.head?.map fun c => c = ' ' || c = '\t' || c = '\x0c').getD false
  let parsed := do
    if startsBlank then none
    let ts ← tokens (cs.length + 1) cs
    let (p, rest) ← item (ts.length + 1) ts
    if rest.isEmpty then
      match p.value with
      | .map kvs => if kvs.all (hashable ·.1) then some p.value else none
      | v => some v
    else none
  parsed.getD (.str arg)

end Literal

end SpinLidar
