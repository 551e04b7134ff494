import SpinLidar.Point.Synthesis
import SpinLidar.Fault
namespace SpinLidar

/-- A 4×4 matrix, its sixteen entries row by row. -/
structure Extrinsic where
  entries : Array Float

namespace Extrinsic

def ofEntries (xs : List Float) : Except Fault Extrinsic :=
  if xs.length = 16 then .ok ⟨xs.toArray⟩ else .error (.cannotReshape xs.length)

def entry (m : Extrinsic) (i j : Nat) : Float := m.entries.getD (4 * i + j) 0.0

def row (m : Extrinsic) (i : Nat) (x y z : Float) : Float :=
  m.entry i 0 * x + m.entry i 1 * y + m.entry i 2 * z + m.entry i 3 * 1.0

def apply (m : Extrinsic) (p : Point) : Point :=
  { p with x := m.row 0 p.x p.y p.z, y := m.row 1 p.x p.y p.z, z := m.row 2 p.x p.y p.z }

end Extrinsic

end SpinLidar
