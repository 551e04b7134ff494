import SpinLidar.Yaml.Scanner
import SpinLidar.Yaml.Node
namespace SpinLidar

namespace Yaml

/-- Where the grammar is: the token index and the anchors seen so far. -/
structure Cursor where
  pos : Nat
  anchors : List (String × Node)

def emptyNode : Node := .scalar Tag.null ""

def Cursor.next (c : Cursor) : Cursor := { c with pos := c.pos + 1 }

namespace Compose

def tokenAt (ts : Array Token) (i : Nat) : Token := ts.getD i .streamEnd

def current (ts : Array Token) (c : Cursor) : Token := tokenAt ts c.pos

/-- The full tag a tag token names. `!!` stands for the standard prefix and `!` for itself;
other handles are undefined, since the document declares none. -/
def fullTag (handle : Option String) (suffix : String) : Except String String :=
  match handle with
  | none => .ok suffix
  | some "!" => .ok ("!" ++ suffix)
  | some "!!" => .ok (Tag.standard ++ suffix)
  | some _ => .error "found undefined tag handle"

def properties (ts : Array Token) (c : Cursor) :
    Except String (Option String × Option String × Cursor) := do
  match current ts c with
  | .anchor a =>
    match current ts c.next with
    | .tag h s => return (some a, some (← fullTag h s), c.next.next)
    | _ => return (some a, none, c.next)
  | .tag h s =>
    let t ← fullTag h s
    match current ts c.next with
    | .anchor a => return (some a, some t, c.next.next)
    | _ => return (none, some t, c.next)
  | _ => return (none, none, c)

def register (anchor : Option String) (n : Node) (c : Cursor) : Except String (Node × Cursor) :=
  match anchor with
  | none => .ok (n, c)
  | some a =>
    if (c.anchors.lookup a).isSome then .error "found duplicate anchor"
    else .ok (n, { c with anchors := (a, n) :: c.anchors })

def collectionTag (explicit : Option String) (standard : String) : String :=
  match explicit with
  | none | some "!" => standard
  | some t => t

def emptyTagged (explicit : Option String) : Node :=
  match explicit with
  | none | some "!" => emptyNode
  | some t => .scalar t ""

mutual

/-- A node. `block` allows block collections; `indentless` allows a sequence without start
token. Every call below reads a token before it calls on, so the number of tokens bounds the
depth of calls. -/
def node (ts : Array Token) (block indentless : Bool) : Nat → Cursor → Except String (Node × Cursor)
  | 0, _ => .error "nesting too deep"
  | fuel + 1, c =>
    match current ts c with
    | .alias name =>
      match c.anchors.lookup name with
      | some n => .ok (n, c.next)
      | none => .error "found undefined alias"
    | _ => do
      let (anchor, explicit, c) ← properties ts c
      match current ts c with
      | .blockEntry =>
        if indentless then do
          let (items, c) ← indentlessSequence ts fuel c []
          register anchor (.sequence (collectionTag explicit Tag.seq) items) c
        else if anchor.isSome || explicit.isSome then register anchor (emptyTagged explicit) c
        else .error "expected the node content"
      | .scalar text plain =>
        let tag := if (plain && explicit.isNone) || explicit = some "!" then Resolve.implicit text
          else explicit.getD Tag.str
        register anchor (.scalar tag text) c.next
      | .flowSequenceStart => do
        let (items, c) ← flowSequence ts fuel c.next [] true
        register anchor (.sequence (collectionTag explicit Tag.seq) items) c
      | .flowMappingStart => do
        let (pairs, c) ← flowMapping ts fuel c.next [] true
        register anchor (.mapping (collectionTag explicit Tag.map) pairs) c
      | .blockSequenceStart =>
        if block then do
          let (items, c) ← blockSequence ts fuel c.next []
          register anchor (.sequence (collectionTag explicit Tag.seq) items) c
        else if anchor.isSome || explicit.isSome then register anchor (emptyTagged explicit) c
        else .error "expected the node content"
      | .blockMappingStart =>
        if block then do
          let (pairs, c) ← blockMapping ts fuel c.next []
          register anchor (.mapping (collectionTag explicit Tag.map) pairs) c
        else if anchor.isSome || explicit.isSome then register anchor (emptyTagged explicit) c
        else .error "expected the node content"
      | _ =>
        if anchor.isSome || explicit.isSome then register anchor (emptyTagged explicit) c
        else .error "expected the node content"

def blockSequence (ts : Array Token) : Nat → Cursor → List Node → Except String (List Node × Cursor)
  | 0, _, _ => .error "nesting too deep"
  | fuel + 1, c, acc =>
    match current ts c with
    | .blockEntry =>
      let c := c.next
      match current ts c with
      | .blockEntry | .blockEnd => blockSequence ts fuel c (emptyNode :: acc)
      | _ => do
        let (n, c) ← node ts true false fuel c
        blockSequence ts fuel c (n :: acc)
    | .blockEnd => .ok (acc.reverse, c.next)
    | _ => .error "expected <block end>"

def indentlessSequence (ts : Array Token) : Nat → Cursor → List Node →
    Except String (List Node × Cursor)
  | 0, _, _ => .error "nesting too deep"
  | fuel + 1, c, acc =>
    match current ts c with
    | .blockEntry =>
      let c := c.next
      match current ts c with
      | .blockEntry | .key | .value | .blockEnd => indentlessSequence ts fuel c (emptyNode :: acc)
      | _ => do
        let (n, c) ← node ts true false fuel c
        indentlessSequence ts fuel c (n :: acc)
    | _ => .ok (acc.reverse, c)

def blockPart (ts : Array Token) : Nat → Cursor → Except String (Node × Cursor)
  | 0, _ => .error "nesting too deep"
  | fuel + 1, c =>
    match current ts c with
    | .key | .value | .blockEnd => .ok (emptyNode, c)
    | _ => node ts true true fuel c

def blockMapping (ts : Array Token) : Nat → Cursor → List (Node × Node) →
    Except String (List (Node × Node) × Cursor)
  | 0, _, _ => .error "nesting too deep"
  | fuel + 1, c, acc =>
    match current ts c with
    | .key => do
      let (k, c) ← blockPart ts fuel c.next
      match current ts c with
      | .value => do
        let (v, c) ← blockPart ts fuel c.next
        blockMapping ts fuel c ((k, v) :: acc)
      | _ => blockMapping ts fuel c ((k, emptyNode) :: acc)
    | .blockEnd => .ok (acc.reverse, c.next)
    | _ => .error "expected <block end>"

def flowPart (ts : Array Token) (stops : Token → Bool) : Nat → Cursor → Except String (Node × Cursor)
  | 0, _ => .error "nesting too deep"
  | fuel + 1, c =>
    if stops (current ts c) then .ok (emptyNode, c) else node ts false false fuel c

def flowPair (ts : Array Token) (close : Token) : Nat → Cursor → Except String ((Node × Node) × Cursor)
  | 0, _ => .error "nesting too deep"
  | fuel + 1, c => do
    let (k, c) ← flowPart ts (fun t => t = .value || t = .flowEntry || t = close) fuel c
    match current ts c with
    | .value => do
      let (v, c) ← flowPart ts (fun t => t = .flowEntry || t = close) fuel c.next
      return ((k, v), c)
    | _ => return ((k, emptyNode), c)

def flowSequence (ts : Array Token) : Nat → Cursor → List Node → Bool →
    Except String (List Node × Cursor)
  | 0, _, _, _ => .error "nesting too deep"
  | fuel + 1, c, acc, first =>
    match current ts c with
    | .flowSequenceEnd => .ok (acc.reverse, c.next)
    | t => do
      let c ← if first then pure c
        else if t = .flowEntry then pure c.next
        else throw "expected ',' or ']'"
      match current ts c with
      | .key => do
        let (p, c) ← flowPair ts .flowSequenceEnd fuel c.next
        flowSequence ts fuel c (.mapping Tag.map [p] :: acc) false
      | .flowSequenceEnd => .ok (acc.reverse, c.next)
      | _ => do
        let (n, c) ← node ts false false fuel c
        flowSequence ts fuel c (n :: acc) false

/-- The pairs of a flow mapping after `{`. A key without value indicator has the empty value. -/
def flowMapping (ts : Array Token) : Nat → Cursor → List (Node × Node) → Bool →
    Except String (List (Node × Node) × Cursor)
  | 0, _, _, _ => .error "nesting too deep"
  | fuel + 1, c, acc, first =>
    match current ts c with
    | .flowMappingEnd => .ok (acc.reverse, c.next)
    | t => do
      let c ← if first then pure c
        else if t = .flowEntry then pure c.next
        else throw "expected ',' or '\x7d'"
      match current ts c with
      | .key => do
        let (p, c) ← flowPair ts .flowMappingEnd fuel c.next
        flowMapping ts fuel c (p :: acc) false
      | .flowMappingEnd => .ok (acc.reverse, c.next)
      | _ => do
        let (k, c) ← node ts false false fuel c
        flowMapping ts fuel c ((k, emptyNode) :: acc) false

end

def skipDocumentEnds (ts : Array Token) (c : Cursor) : Cursor :=
  go c (ts.size + 1)
where
  go (c : Cursor) : Nat → Cursor
    | 0 => c
    | n + 1 => if current ts c = .documentEnd then go c.next n else c

end Compose

open Compose in
/-- The node of the single document of a token stream; none for a stream without document. A
document without `---` starts at once; one with it may be empty. -/
def compose (ts : Array Token) : Except String (Option Node) := do
  let fuel := ts.size + 2
  let c : Cursor := ⟨1, []⟩
  let (doc, c) ← match current ts c with
    | .documentStart | .streamEnd =>
      let c := skipDocumentEnds ts c
      match current ts c with
      | .streamEnd => pure (none, c)
      | .documentStart =>
        let c := c.next
        match current ts c with
        | .documentStart | .documentEnd | .streamEnd => pure (some emptyNode, c)
        | _ => do
          let (n, c) ← node ts true false fuel c
          pure (some n, c)
      | _ => throw "expected '<document start>'"
    | _ => do
      let (n, c) ← node ts true false fuel c
      pure (some n, c)
  let c := skipDocumentEnds ts c
  if current ts c = .streamEnd then return doc
  else throw "expected a single document in the stream"

end Yaml

end SpinLidar
