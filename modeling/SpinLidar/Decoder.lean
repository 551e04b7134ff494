import SpinLidar.Point.Synthesis
import SpinLidar.Calibration.Load
namespace SpinLidar

/-- A decoder: a model, a calibration with one entry per channel of the model, and the way the
platform stores an intensity in a byte. -/
structure Decoder where
  model : Sensor.Model
  calibration : Calibration
  channels_eq : calibration.channelCount = model.spec.channelCount
  byteCast : Geometry.ByteCast

namespace Decoder

def spec (d : Decoder) : Sensor.Spec := d.model.spec

/-- A decoder for a model on x86, with the model's nominal calibration unless one is given.
The calibration must have as many entries as the model has channels. -/
def make (model : Sensor.Model) (cal : Option Calibration) : Except Fault Decoder := do
  let spec := model.spec
  let cal ← match cal with
    | some c => pure c
    | none => Calibration.bundled model
  if h : cal.channelCount ≠ spec.channelCount then
    throw (.calibration (.channelMismatch model.name spec.channelCount cal.channelCount))
  else return ⟨model, cal, Decidable.of_not_not h, .x86⟩

def decodeParsed (d : Decoder) (buf : ByteArray) : Except DecodeError (Packet × List Point) := do
  let p ← Packet.parse d.spec buf
  let pts ← p.points d.spec d.calibration d.byteCast
  return (p, pts)

def decode (d : Decoder) (buf : ByteArray) : Except DecodeError (List Point) :=
  (d.decodeParsed buf).map (·.2)

def skipWarning (index : Nat) (e : DecodeError) : String :=
  "Skipping packet " ++ toString index ++ ": " ++ e.message

/-- What a stream produced: its result and the warnings logged on the way. -/
structure Logged (α : Type) where
  result : Except DecodeError α
  warnings : List String

def streamStep (d : Decoder) (skipErrors : Bool) (acc : Logged (List Point)) :
    ByteArray × Nat → Logged (List Point)
  | (buf, i) =>
    match acc.result with
    | .error _ => acc
    | .ok pts =>
      match d.decode buf with
      | .ok more => ⟨.ok (pts ++ more), acc.warnings⟩
      | .error e =>
        if skipErrors then ⟨.ok pts, acc.warnings ++ [skipWarning i e]⟩
        else ⟨.error e, acc.warnings⟩

/-- The points of a stream of packets, in order. A packet that cannot be decoded is skipped
with a warning, or, when `skipErrors` is off, ends the stream with its fault. -/
def stream (d : Decoder) (packets : List ByteArray) (skipErrors : Bool) : Logged (List Point) :=
  packets.zipIdx.foldl (d.streamStep skipErrors) ⟨.ok [], []⟩

def splitOf (deg : Float) : Except Fault Nat := do
  let n ← Fault.roundInt (deg / 0.01)
  return (n % 36000).toNat

def crossesSplit (previous current split : Nat) : Bool :=
  if previous > current then !(previous ≥ split ∧ split > current)
  else current ≥ split ∧ split > previous

/-- The state of cutting a stream into turns: the turns completed, the points of each packet of
the turn in progress, and the leading azimuth of the last packet decoded. -/
structure TurnCut where
  turns : List (List Point)
  current : List (List Point)
  previous : Option Nat

namespace TurnCut

def empty : TurnCut := ⟨[], [], none⟩

/-- Adds a decoded packet, given by its leading azimuth and its points: the packet joins the turn
in progress, and ends it when its azimuth crosses the split from the previous packet's. -/
def add (split : Nat) (cut : TurnCut) (azimuth : Nat) (pts : List Point) : TurnCut :=
  let current := cut.current ++ [pts]
  let isSplit := match cut.previous with
    | some prev => crossesSplit prev azimuth split
    | none => false
  if isSplit then ⟨cut.turns ++ [current.flatten], [], some azimuth⟩
  else ⟨cut.turns, current, some azimuth⟩

/-- The turns of a cut once the packets run out: the completed turns, then the turn in progress
when partial turns are wanted and it holds a packet, even one without points. -/
def finish (cut : TurnCut) (includePartial : Bool) : List (List Point) :=
  if includePartial && !cut.current.isEmpty then cut.turns ++ [cut.current.flatten] else cut.turns

end TurnCut

/-- How far cutting a stream into turns goes: the cut, the fault of the packet that ended the
stream (when faults are not skipped), and the warnings for the packets skipped. The turns the cut
completed are handed out before the fault is raised. -/
structure TurnRun where
  cut : TurnCut
  fault : Option DecodeError
  warnings : List String

/-- One packet of a stream cut into turns: a decoded packet is added to the cut; one that cannot
be decoded is skipped with a warning or stops the cut with its fault. -/
def turnStep (d : Decoder) (split : Nat) (skipErrors : Bool) (run : TurnRun) :
    ByteArray × Nat → TurnRun
  | (buf, i) =>
    match run.fault with
    | some _ => run
    | none =>
      match d.decodeParsed buf with
      | .error e =>
        if skipErrors then { run with warnings := run.warnings ++ [skipWarning i e] }
        else { run with fault := some e }
      | .ok (p, pts) =>
        { run with cut := run.cut.add split ((p.blocks.getD 0 default).azimuth % 36000) pts }

def turnRun (d : Decoder) (packets : List ByteArray) (split : Nat) (skipErrors : Bool) : TurnRun :=
  packets.zipIdx.foldl (d.turnStep split skipErrors) ⟨.empty, none, []⟩

/-- What iterating over a generator gives: the items it yields, in order, then either its end or
the fault it raises, and the warnings logged on the way. -/
structure Yielded (α : Type) where
  items : List α
  fault : Option DecodeError
  warnings : List String

def Yielded.result (y : Yielded α) : Except DecodeError (List α) :=
  match y.fault with
  | some e => .error e
  | none => .ok y.items

/-- The turns of a stream of packets. A turn ends with the packet whose leading azimuth (modulo a
full turn) crosses the split; the trailing incomplete turn is kept only with `includePartial`.
Packets that cannot be decoded are skipped with a warning, or stop the stream with their fault
after the turns completed before them. -/
def turns (d : Decoder) (packets : List ByteArray) (split : Nat) (skipErrors includePartial : Bool) :
    Yielded (List Point) :=
  let run := d.turnRun packets split skipErrors
  match run.fault with
  | some e => ⟨run.cut.turns, some e, run.warnings⟩
  | none => ⟨run.cut.finish includePartial, none, run.warnings⟩

/-- The turns of a stream of packets split at an angle in degrees. The split is computed before
any packet is read, so an angle that has none fails at once. -/
def iterTurns (d : Decoder) (packets : List ByteArray) (splitDeg : Float)
    (skipErrors includePartial : Bool) : Except Fault (Yielded (List Point)) :=
  (splitOf splitDeg).map fun split => d.turns packets split skipErrors includePartial

/-- What the bounded pipeline does, one event at a time: it draws a packet from the source,
submits a drawn packet to a worker, or delivers the result of a submitted packet. -/
inductive Step where
  | draw (index : Nat)
  | submit (index : Nat)
  | deliver (index : Nat)
deriving Repr, DecidableEq

def Step.delivered : Step → Option Nat
  | .deliver i => some i
  | .draw _ | .submit _ => none

/-- The pipeline's queue: how many packets it has drawn from the source, and the packets
submitted and not yet delivered, oldest first. -/
structure InFlight where
  drawn : Nat
  waiting : List Nat
deriving Repr, DecidableEq

namespace InFlight

def empty : InFlight := ⟨0, []⟩

def makeRoom (window : Nat) (waiting : List Nat) : List Step × List Nat :=
  if waiting.length = window then
    match waiting with
    | j :: rest => ([.deliver j], rest)
    | [] => ([], [])
  else ([], waiting)

def pull (window : Nat) (q : InFlight) : List Step × InFlight :=
  let (out, waiting) := makeRoom window q.waiting
  ([.draw q.drawn] ++ out ++ [.submit q.drawn], ⟨q.drawn + 1, waiting ++ [q.drawn]⟩)

def pulls (window : Nat) : Nat → List Step × InFlight
  | 0 => ([], empty)
  | n + 1 =>
    let (steps, q) := pulls window n
    let (more, q) := q.pull window
    (steps ++ more, q)

def drain (q : InFlight) : List Step := q.waiting.map .deliver

end InFlight

def pipeline (workers n : Nat) : List Step :=
  let (steps, q) := InFlight.pulls (2 * workers) n
  steps ++ q.drain

/-- The results of the pipeline in delivery order: every packet's index with its points or its
fault. Each packet is decoded on its own, so the order of completion does not matter. -/
def parallel (d : Decoder) (workers : Int) (packets : List ByteArray) :
    Except Fault (List (Nat × Except DecodeError (List Point))) :=
  if workers < 1 then .error (.tooFewWorkers workers)
  else
    .ok ((pipeline workers.toNat packets.length).filterMap fun s =>
      s.delivered.map fun i => (i, d.decode (packets.getD i ByteArray.empty)))

end Decoder

end SpinLidar
