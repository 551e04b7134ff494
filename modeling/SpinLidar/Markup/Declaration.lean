import SpinLidar.Markup.Scanner
namespace SpinLidar

namespace Markup

/-- What a declaration says: the encoding it names, with the index where the name starts, and
whether the document is declared standalone. -/
structure Declared where
  encoding : Option (String × Nat)
  standalone : Bool
deriving Repr

def asciiBefore (cs : Array Char) (stop i : Nat) : Option Char :=
  if i < stop then (cs[i]?).filter (·.toNat < 0x80) else none

def declBlank (c : Char) : Bool := c = ' ' || c = '\t' || c = '\n' || c = '\r'

def valueChar (c : Char) : Bool := c.isAlphanum || c = '.' || c = '-' || c = '_'

def findBefore (cs : Array Char) (stop : Nat) (p : Char → Bool) (i : Nat) : Nat :=
  go i (stop - i)
where
  go (i : Nat) : Nat → Nat
    | 0 => i
    | n + 1 =>
      match asciiBefore cs stop i with
      | none => i
      | some c => if p c then i else go (i + 1) n

def skipDeclBlanks (cs : Array Char) (stop i : Nat) : Nat :=
  findBefore cs stop (fun c => !declBlank c) i

/-- A pseudo-attribute: where its name starts and ends, where its value starts, and the index
after its closing quote. -/
structure Pseudo where
  nameStart : Nat
  nameStop : Nat
  valueStart : Nat
  next : Nat
deriving Repr

def slice (cs : Array Char) (a b : Nat) : String :=
  String.ofList (cs.extract a b).toList

def Pseudo.name (cs : Array Char) (p : Pseudo) : String := slice cs p.nameStart p.nameStop

def Pseudo.value (cs : Array Char) (p : Pseudo) : String := slice cs p.valueStart (p.next - 1)

def pseudoAttribute (cs : Array Char) (stop i : Nat) : Except Nat (Option Pseudo) :=
  if i = stop then .ok none
  else if !((asciiBefore cs stop i).any declBlank) then .error i
  else
    let p := skipDeclBlanks cs stop (i + 1)
    if p = stop then .ok none
    else
      let q := findBefore cs stop (fun c => c = '=' || declBlank c) p
      let eq := if (asciiBefore cs stop q).any declBlank then skipDeclBlanks cs stop (q + 1) else q
      if asciiBefore cs stop eq != some '=' then .error eq
      else if eq = p then .error eq
      else
        let v := skipDeclBlanks cs stop (eq + 1)
        match asciiBefore cs stop v with
        | some quote =>
          if quote = '"' || quote = '\'' then
            let close := findBefore cs stop (fun c => !valueChar c) (v + 1)
            if asciiBefore cs stop close == some quote then .ok (some ⟨p, q, v + 1, close + 1⟩)
            else .error close
          else .error v
        | none => .error v

def readDeclaration (cs : Array Char) (s next : Nat) : Except Nat Declared := do
  let stop := next - 2
  let some version ← pseudoAttribute cs stop (s + 5) | throw (s + 5)
  if version.name cs ≠ "version" then throw version.nameStart
  let some second ← pseudoAttribute cs stop version.next | return ⟨none, false⟩
  let (encoding, third) ← encodingAndRest second
  match third with
  | none => return ⟨encoding, false⟩
  | some flag =>
    if flag.name cs ≠ "standalone" then throw flag.nameStart
    let standalone ← match flag.value cs with
      | "yes" => pure true
      | "no" => pure false
      | _ => throw flag.valueStart
    let e := skipDeclBlanks cs stop flag.next
    if e ≠ stop then throw e
    return ⟨encoding, standalone⟩
where
  /-- The encoding a pseudo-attribute names, if it is `encoding`, and the pseudo-attribute
  after the encoding. -/
  encodingAndRest (a : Pseudo) : Except Nat (Option (String × Nat) × Option Pseudo) :=
    if a.name cs = "encoding" then
      if !((asciiBefore cs (next - 2) a.valueStart).any Char.isAlpha) then .error a.valueStart
      else
        (pseudoAttribute cs (next - 2) a.next).map fun rest => (some (a.value cs, a.valueStart), rest)
    else .ok (none, some a)

end Markup

end SpinLidar
