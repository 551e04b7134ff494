import SpinLidar.Command.Literal
namespace SpinLidar

namespace Flags

/-- A parameter of a command: its name, and its default unless it is required. -/
structure Parameter where
  name : String
  default : Option Datum

/-- Why a command line is refused before the command runs. -/
inductive Refusal where
  | ambiguous (flag : String) (candidates : List String)
  | missing (name : String)

/-- The values of the parameters, in order, and the arguments left over. -/
structure Binding where
  values : List Datum
  leftover : List String

def isFlag (arg : String) : Bool :=
  match arg.toList with
  | '-' :: '-' :: _ => true
  | '-' :: c :: _ => c.isAlpha
  | _ => false

/-- What the flags of a command line gave: values by parameter name in the order given, the
flags left over, and the positional arguments. -/
structure Scan where
  named : List (String × String)
  unnamed : List String
  positional : List String

def keywordOf (names : List String) (key : String) (boolSyntax : Bool) :
    Except Refusal String :=
  if names.contains key ||
      (boolSyntax && key.toList.take 2 == ['n', 'o'] && names.contains (String.ofList (key.toList.drop 2))) then
    .ok key
  else if key.length = 1 then
    match names.filter (fun n => n.toList.take 1 == key.toList) with
    | [one] => .ok one
    | [] => .ok ""
    | many => .error (.ambiguous key many)
  else .ok ""

def scan (names : List String) : List String → Except Refusal Scan
  | [] => .ok ⟨[], [], []⟩
  | arg :: rest =>
    if !isFlag arg then do
      let s ← scan names rest
      return { s with positional := arg :: s.positional }
    else
      let stripped := String.ofList (arg.toList.dropWhile (· = '-'))
      let hasValue := arg.contains '='
      let key := String.ofList ((stripped.toList.takeWhile (· ≠ '=')).map fun c => if c = '-' then '_' else c)
      let value := String.ofList ((stripped.toList.dropWhile (· ≠ '=')).drop 1)
      let boolSyntax := !hasValue && (rest.head?.map isFlag).getD true
      let takesNext := !hasValue && !boolSyntax
      match keywordOf names key boolSyntax with
      | .error e => .error e
      | .ok keyword =>
        let next := if takesNext then rest.drop 1 else rest
        match scan names next with
        | .error e => .error e
        | .ok s =>
          if keyword.isEmpty then
            .ok { s with unnamed := arg :: (if takesNext then rest.take 1 else []) ++ s.unnamed }
          else
            let (keyword, v) :=
              if hasValue then (keyword, value)
              else if boolSyntax then
                if names.contains keyword then (keyword, "True")
                else (String.ofList (keyword.toList.drop 2), "False")
              else (keyword, rest.headD "")
            .ok { s with named := (keyword, v) :: s.named }
termination_by args => args.length
decreasing_by
  all_goals simp only [List.length_cons]
  all_goals (try split) <;> (try simp only [List.length_drop]) <;> omega

def lastNamed (named : List (String × String)) (name : String) : Option String :=
  (named.filter (·.1 == name)).getLast?.map (·.2)

def bindParameters (named : List (String × String)) :
    List Parameter → List String → Except Refusal (List Datum × List String)
  | [], positional => .ok ([], positional)
  | p :: ps, positional =>
    match lastNamed named p.name, positional, p.default with
    | some v, _, _ => do
      let (vs, rest) ← bindParameters named ps positional
      return (Literal.read v :: vs, rest)
    | none, a :: more, _ => do
      let (vs, rest) ← bindParameters named ps more
      return (Literal.read a :: vs, rest)
    | none, [], some d => do
      let (vs, rest) ← bindParameters named ps []
      return (d :: vs, rest)
    | none, [], none => .error (.missing p.name)

def bind (params : List Parameter) (args : List String) : Except Refusal Binding := do
  let s ← scan (params.map (·.name)) args
  let (values, rest) ← bindParameters s.named params s.positional
  return ⟨values, rest ++ s.unnamed⟩

end Flags

end SpinLidar
