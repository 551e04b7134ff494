namespace SpinLidar

namespace Text

/-- A set of code points by the sorted boundaries of its runs. -/
structure RangeTable where
  bounds : Array Nat

namespace RangeTable

def hexValue (w : String) : Nat :=
  w.foldl (fun acc c =>
    let d :=
      if '0' ≤ c ∧ c ≤ '9' then c.toNat - 48
      else if 'a' ≤ c ∧ c ≤ 'f' then c.toNat - 87
      else 0
    16 * acc + d) 0

def hexWords (s : String) : Array Nat :=
  ((s.splitOn " ").filter (· ≠ "")).toArray.map hexValue

def ofHex (s : String) : RangeTable := ⟨hexWords s⟩

def countAtMost (xs : Array Nat) (n : Nat) : Nat :=
  go 0 xs.size 40
where
  go (lo hi : Nat) : Nat → Nat
    | 0 => lo
    | fuel + 1 =>
      if lo < hi then
        let mid := (lo + hi) / 2
        if xs.getD mid 0 ≤ n then go (mid + 1) hi fuel else go lo mid fuel
      else lo

def lastAtMost (xs : Array Nat) (n : Nat) : Nat :=
  match countAtMost xs n with
  | 0 => 0
  | k + 1 => xs.getD k 0

def contains (t : RangeTable) (n : Nat) : Bool :=
  countAtMost t.bounds n % 2 = 1

end RangeTable

end Text

end SpinLidar
