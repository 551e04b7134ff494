import SpinLidar.Capture.Read
import SpinLidar.Decoder
import SpinLidar.Point.Extrinsic
import SpinLidar.Status.Accumulator
namespace SpinLidar

namespace Capture

/-- A result with the warnings logged on the way to it. -/
structure Logged (α : Type) where
  result : Except Fault α
  warnings : List String

def skippedWarning (n : Nat) : String :=
  "Skipped " ++ toString n ++ " packets that failed to decode"

def noStatusWarning : String := "No complete HDL-64E status sequence found in pcap file"

def decodeAll (d : Decoder) (bufs : List ByteArray) : Array (List Point) × Nat :=
  bufs.foldl (fun (acc, skipped) buf =>
    match d.decode buf with
    | .ok ps => (acc.push ps, skipped)
    | .error _ => (acc, skipped + 1)) (#[], 0)

/-- The points of a capture file, moved by an extrinsic matrix if one is given. The matrix is
checked once the points are read. -/
def points (d : Decoder) (f : Filters) (file : ByteArray) (extrinsic : Option (List Float)) :
    Logged (List Point) :=
  match payloads f file with
  | .error e => ⟨.error (.capture e), e.logged⟩
  | .ok bufs =>
    let (decoded, skipped) := decodeAll d bufs
    let warnings := if skipped = 0 then [] else [skippedWarning skipped]
    if decoded.isEmpty then ⟨.error (.capture .noData), warnings⟩
    else
      let ps := decoded.toList.flatten
      match extrinsic with
      | some entries => ⟨(Extrinsic.ofEntries entries).map fun m => ps.map m.apply, warnings⟩
      | none => ⟨.ok ps, warnings⟩

def status (f : Filters) (file : ByteArray) : Logged Status.Accumulator :=
  let (bufs, failure) := scan f file
  let fed := Status.Accumulator.initial.feedPackets bufs
  match failure with
  | some e => ⟨.error (.capture e), fed.warnings ++ e.logged⟩
  | none =>
    ⟨.ok fed.state, fed.warnings ++ if fed.state.initialized then [] else [noStatusWarning]⟩

end Capture

end SpinLidar
