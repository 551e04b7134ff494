import SpinLidar.Point.Synthesis
import SpinLidar.Decimal.Round
import SpinLidar.Fault
namespace SpinLidar

/-- The summary of a point cloud. -/
structure Summary where
  points : Nat
  durationSeconds : Float
  channels : Nat
  fewestPerChannel : Nat
  mostPerChannel : Nat
  medianRange : Float

namespace Summary

def medianOfSorted (xs : Array Float) : Float :=
  let n := xs.size
  if n % 2 = 1 then xs.getD (n / 2) 0.0
  else (xs.getD (n / 2 - 1) 0.0 + xs.getD (n / 2) 0.0) / 2.0

def runLengths : List Nat → List Nat
  | [] => []
  | c :: rest =>
    let same := (rest.takeWhile (· = c)).length
    (same + 1) :: runLengths (rest.drop same)
termination_by xs => xs.length
decreasing_by simp only [List.length_drop, List.length_cons]; omega

def perChannel (ps : List Point) : List Nat :=
  runLengths (ps.map Point.channel |>.mergeSort (· ≤ ·))

end Summary

def summarize (ps : List Point) : Except Fault Summary :=
  match ps with
  | [] => .error .emptySummary
  | p :: _ =>
    let ts := ps.map Point.timestamp
    let latest := ts.foldl max p.timestamp
    let earliest := ts.foldl min p.timestamp
    let counts := Summary.perChannel ps
    let ranges := (ps.map Point.distance).mergeSort (· ≤ ·)
    .ok { points := ps.length
          durationSeconds := Float.roundPlaces ((latest - earliest) * 1e-6) 6
          channels := counts.length
          fewestPerChannel := counts.foldl min (counts.headD 0)
          mostPerChannel := counts.foldl max (counts.headD 0)
          medianRange := Float.roundPlaces (Summary.medianOfSorted ranges.toArray) 3 }

def degreesPerRadian : Float := 180.0 / 3.141592653589793

def Point.elevation (p : Point) : Float :=
  Float.atan2 p.z (Float.hypot p.x p.y) * degreesPerRadian

end SpinLidar
