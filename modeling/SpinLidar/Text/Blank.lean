namespace SpinLidar

namespace Text

def isBlank (c : Char) : Bool :=
  let n := c.toNat
  (9 ≤ n ∧ n ≤ 13) || (28 ≤ n ∧ n ≤ 32) || n == 0x85 || n == 0xA0 || n == 0x1680 ||
    (0x2000 ≤ n ∧ n ≤ 0x200A) || n == 0x2028 || n == 0x2029 || n == 0x202F || n == 0x205F ||
    n == 0x3000

def trimBlank (cs : List Char) : List Char :=
  ((cs.dropWhile isBlank).reverse.dropWhile isBlank).reverse

def trim (s : String) : String :=
  String.ofList (trimBlank s.toList)

def universalNewlines (s : String) : String :=
  String.ofList (go s.toList)
where
  go : List Char → List Char
    | '\r' :: '\n' :: rest => '\n' :: go rest
    | '\r' :: rest => '\n' :: go rest
    | c :: rest => c :: go rest
    | [] => []

end Text

end SpinLidar
