import SpinLidar.Sensor
namespace SpinLidar

/-- How a packet's blocks report echoes. -/
inductive ReturnMode where
  | strongest
  | last
  | dual
deriving Repr, DecidableEq, Inhabited

/-- Which echo of a laser pulse a point stands for. -/
inductive ReturnType where
  | strongest
  | last
  | lastAndStrongest
deriving Repr, DecidableEq, Inhabited

namespace ReturnType

def code : ReturnType → Nat
  | .strongest => 1
  | .last => 2
  | .lastAndStrongest => 3

end ReturnType

namespace ReturnMode

def code : ReturnMode → Nat
  | .strongest => 0x37
  | .last => 0x38
  | .dual => 0x39

def ofCode? (v : Int) : Option ReturnMode :=
  if v = 0x37 then some .strongest
  else if v = 0x38 then some .last
  else if v = 0x39 then some .dual
  else none

def ofCodeLenient (v : Int) : ReturnMode :=
  (ofCode? v).getD .strongest

def resolve (spec : Sensor.Spec) (v : Int) : Except DecodeError ReturnMode :=
  if spec.footerHasReturnMode then
    match ofCode? v with
    | some m =>
      if m = .dual ∧ spec.supportsDual = false then .error (.dualUnsupported spec.model.name v)
      else .ok m
    | none => .error (.unknownReturnMode v)
  else .ok .strongest

def returnsPerFiring : ReturnMode → Nat
  | .dual => 2
  | _ => 1

def blocksPerGroup (spec : Sensor.Spec) (m : ReturnMode) : Nat :=
  spec.banks * m.returnsPerFiring

/-- The block offsets of a firing group in emission order. In dual mode each bank's strongest
block is reported before its last block: `[1, 0]` for one bank, `[2, 0, 3, 1]` for two. -/
def groupMembers (spec : Sensor.Spec) : ReturnMode → List Nat
  | .dual => (List.range spec.banks).flatMap fun bank => [spec.banks + bank, bank]
  | _ => List.range spec.banks

def dualGroupFlags (spec : Sensor.Spec) : List Nat :=
  let bankFlags := [0xEEFF, 0xDDFF].take spec.banks
  bankFlags ++ bankFlags

def chunks (n : Nat) (xs : List α) : List (List α) :=
  go xs xs.length
where
  go (xs : List α) : Nat → List (List α)
    | 0 => []
    | fuel + 1 => if xs.isEmpty || n = 0 then [] else xs.take n :: go (xs.drop n) fuel

/-- The mode of a packet whose footer does not report it, from its block azimuths and flags:
strongest on a model without the dual mode, otherwise dual exactly when the blocks split into
whole groups of `2 · banks`, each with a single azimuth and the bank flags twice over. -/
def infer (spec : Sensor.Spec) (azimuths flags : List Nat) : ReturnMode :=
  let group := blocksPerGroup spec .dual
  if spec.supportsDual = false then .strongest
  else if azimuths.length % group ≠ 0 then .strongest
  else
    let sameAzimuth := (chunks group azimuths).all fun g => g.all (· == g.headD 0)
    let dualFlags := (chunks group flags).all (· == dualGroupFlags spec)
    if sameAzimuth && dualFlags then .dual else .strongest

end ReturnMode

/-- What becomes of one sample: whether it is kept as a point, its return index, the number
of returns of its firing and its return type. -/
structure Choice where
  keep : Bool
  returnIndex : Nat
  numReturns : Nat
  returnType : ReturnType
deriving Repr, DecidableEq

namespace Choice

def single (mode : ReturnMode) (d : Nat) : Choice :=
  ⟨d != 0, 1, 1, if mode = .last then .last else .strongest⟩

/-- The strongest and the last sample of one dual firing. A zero distance is no echo. When both
measured the same non-zero distance the strongest sample is dropped and the last one stands for
both; otherwise every echo is kept, the strongest first. -/
def dualPair (strongest last : Nat) : Choice × Choice :=
  let collapsed := strongest == last && last != 0
  let keepLast := last != 0
  let keepStrongest := strongest != 0 && !collapsed
  let num := (if keepLast then 1 else 0) + (if keepStrongest then 1 else 0)
  (⟨keepStrongest, 1, num, .strongest⟩,
   ⟨keepLast, if keepStrongest then 2 else 1, num,
    if collapsed then .lastAndStrongest else .last⟩)

def pairs : List Nat → List (Nat × Nat)
  | a :: b :: rest => (a, b) :: pairs rest
  | _ => []

/-- The choices for the members of one firing slot, in member order. In dual mode the members
come in (strongest, last) pairs, one pair per bank. -/
def ofMembers (mode : ReturnMode) (ds : List Nat) : List Choice :=
  match mode with
  | .dual => (pairs ds).flatMap fun (s, l) => let (a, b) := dualPair s l; [a, b]
  | _ => ds.map (single mode)

end Choice

end SpinLidar
