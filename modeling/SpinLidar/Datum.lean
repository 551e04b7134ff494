import SpinLidar.Decimal.Format
import SpinLidar.Text.Quoted
namespace SpinLidar

/-- A loosely typed value. A mapping keeps its entries in the order they were given. -/
inductive Datum where
  | none
  | bool (b : Bool)
  | int (n : Int)
  | float (x : Float)
  | str (s : String)
  | list (items : List Datum)
  | map (entries : List (Datum × Datum))
deriving Inhabited

namespace Datum

mutual
def literal : Datum → String
  | .none => "None"
  | .bool b => if b then "True" else "False"
  | .int n => toString n
  | .float x => FloatFormat.plain.render x
  | .str s => Text.quote s
  | .list items => "[" ++ literalItems items ++ "]"
  | .map entries => "\x7b" ++ literalEntries entries ++ "\x7d"

def literalItems : List Datum → String
  | [] => ""
  | [d] => literal d
  | d :: rest => literal d ++ ", " ++ literalItems rest

def literalEntries : List (Datum × Datum) → String
  | [] => ""
  | [(k, v)] => literal k ++ ": " ++ literal v
  | (k, v) :: rest => literal k ++ ": " ++ literal v ++ ", " ++ literalEntries rest
end

def typeName : Datum → String
  | .none => "NoneType"
  | .bool _ => "bool"
  | .int _ => "int"
  | .float _ => "float"
  | .str _ => "str"
  | .list _ => "list"
  | .map _ => "dict"

end Datum

end SpinLidar
