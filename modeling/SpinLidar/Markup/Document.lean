import SpinLidar.Markup.Element
import SpinLidar.Markup.Scanner
import SpinLidar.Markup.Encoding
import SpinLidar.Markup.Declaration
namespace SpinLidar

namespace Markup

def xmlNamespace : String := "http://www.w3.org/XML/1998/namespace"

def xmlnsNamespace : String := "http://www.w3.org/2000/xmlns/"

/-- A document's characters as it is read, the form its bytes are read in, and whether its
bytes end with half a UTF-16 unit (then its end is a token cut off). -/
structure Source where
  chars : Array Char
  form : Form
  cutShort : Bool

/-- The problem at an index of a document's characters, placed on its line and column. The
line counts from 1 (a carriage return, a line feed or both together end a line), the column
from 0 in characters. -/
def Source.fail (src : Source) (p : Problem) (i : Nat) : Failure :=
  let step := fun ((line, col, afterCr) : Nat × Nat × Bool) (c : Char) =>
    if c = '\n' then if afterCr then (line, 0, false) else (line + 1, 0, false)
    else if c = '\r' then (line + 1, 0, true)
    else (line, col + 1, false)
  let (line, col, _) := (src.chars.extract 0 i).foldl step (1, 0, false)
  .malformed p line col

def Source.token (src : Source) (scanner : Array Char → Nat → Tok × Nat) (i : Nat) : Tok × Nat :=
  match scanner src.chars i with
  | (.none, n) => if src.cutShort then (.unfinished, n) else (.none, n)
  | r => r

/-- What the document type declaration tells the reader: whether entities may be declared
outside the document, whether the document is standalone, whether entity declarations are
still taken in, and the internal entities declared, with their texts. -/
structure Dtd where
  external : Bool
  standalone : Bool
  keepProcessing : Bool
  entities : List (String × String)

def Dtd.initial : Dtd := ⟨false, false, true, []⟩

def Dtd.checksEntities (d : Dtd) : Bool := !d.external || d.standalone

def predefined : String → Option String
  | "lt" => some "<"
  | "gt" => some ">"
  | "amp" => some "&"
  | "quot" => some "\""
  | "apos" => some "'"
  | _ => none

def isDocumentChar (n : Nat) : Bool :=
  n = 0x9 || n = 0xA || n = 0xD || (0x20 ≤ n && n ≤ 0xD7FF) || (0xE000 ≤ n && n ≤ 0xFFFD) ||
    (0x10000 ≤ n && n ≤ 0x10FFFF)

def referencedChar (cs : Array Char) (a b : Nat) : Option Char :=
  let hex := cs[a + 2]? == some 'x'
  let digits := (cs.extract (if hex then a + 3 else a + 2) (b - 1)).toList
  let value := fun (c : Char) =>
    if c.isDigit then c.toNat - 48 else if c.isUpper then c.toNat - 55 else c.toNat - 87
  let n := digits.foldl (fun acc c => min 0x110000 (acc * (if hex then 16 else 10) + value c)) 0
  if isDocumentChar n then some (Char.ofNat n) else none

def keyword (cs : Array Char) (a b : Nat) : String := slice cs a b

def publicIdChar (c : Char) : Bool :=
  c.isAlphanum || " \r\n-'()+,./:=?;!*#@$_%".toList.contains c

/-- Where a document type declaration is in the prolog. -/
inductive Stage where
  | start
  | afterStart
  | afterDoctype
  | doctypeOpened
  | doctypeNamed
  | publicId
  | systemId
  | idsRead
  | subset
  | declaring (entity : Bool) (parts : List (Tok × String))
  | subsetClosed

def misplaced (t : Tok) : Problem :=
  match t with
  | .xmlDeclaration => .misplacedDeclaration
  | .paramEntityRef => .parameterReference
  | _ => .unexpected

/-- The document type information after a declaration of the internal subset closes: an
entity declared as a name and a quoted text is taken in, unless an earlier one of the name
is. -/
def declare (d : Dtd) (entity : Bool) (parts : List (Tok × String)) : Dtd :=
  match entity, parts.reverse with
  | true, [(.name, n), (.literal, v)] =>
    if d.keepProcessing && (d.entities.lookup n).isNone then
      { d with entities := d.entities ++ [(n, String.ofList ((v.toList.drop 1).dropLast))] }
    else d
  | _, _ => d

/-- The document read one character a byte as an encoding says, and where the index `cut` of
the characters read before falls in it. Only the characters after the declaration at `cut` are
read again, but the places of everything before are counted anew: a byte order mark before the
declaration counts as three characters from then on. -/
def Source.reread (src : Source) (cut : Nat) (r : Reading) : Source × Nat :=
  let bytes := (String.ofList src.chars.toList).toUTF8
  let before := (String.ofList (src.chars.extract 0 cut).toList).utf8ByteSize
  ({ src with chars := (readBytes r bytes.toList).toArray }, before)

/-- Reads the prolog from index `i` at a stage: the source (reread if the declaration names
another encoding), the document type information, and the index where the document element
starts. -/
def prolog (src : Source) (dtd : Dtd) : Nat → Stage → Nat → Except Failure (Source × Dtd × Nat)
  | 0, _, i => .error (src.fail .noElement i)
  | fuel + 1, stage, i =>
    let (t, n) := src.token prologToken i
    let go := fun (stage : Stage) => prolog src dtd fuel stage n
    let wrong := Except.error (src.fail (misplaced t) i)
    match t with
    | .invalid => .error (src.fail .invalidToken n)
    | .unfinished => .error (src.fail .unclosedToken i)
    | .none => .error (src.fail .noElement i)
    | _ =>
      match stage with
      | .start | .afterStart | .afterDoctype =>
        let after := match stage with
          | .start => Stage.afterStart
          | s => s
        match t with
        | .blank | .instruction | .comment => go after
        | .xmlDeclaration =>
          match stage with
          | .start =>
            match readDeclaration src.chars i n with
            | .error bad => .error (src.fail .malformedDeclaration bad)
            | .ok d =>
              let dtd := { dtd with standalone := d.standalone }
              match d.encoding with
              | none => prolog src dtd fuel .afterStart n
              | some (name, place) =>
                match naming src.form name with
                | .reads .same => prolog src dtd fuel .afterStart n
                | .reads r =>
                  let (src, n) := src.reread n r
                  prolog src dtd fuel .afterStart n
                | .incorrect => .error (src.fail .incorrectEncoding place)
                | .unknownToParser => .error (src.fail .unknownEncoding place)
                | .refused f => .error f
          | _ => wrong
        | .declOpen =>
          match stage with
          | .afterDoctype => wrong
          | _ => if keyword src.chars (i + 2) n = "DOCTYPE" then go .doctypeOpened else wrong
        | .instanceStart => .ok (src, dtd, i)
        | _ => wrong
      | .doctypeOpened =>
        match t with
        | .blank => go stage
        | .name | .prefixedName => go .doctypeNamed
        | _ => wrong
      | .doctypeNamed =>
        match t with
        | .blank => go stage
        | .openBracket => go .subset
        | .declClose => go .afterDoctype
        | .name =>
          match slice src.chars i n with
          | "SYSTEM" => go .systemId
          | "PUBLIC" => go .publicId
          | _ => wrong
        | _ => wrong
      | .publicId =>
        match t with
        | .blank => go stage
        | .literal =>
          match (List.range (n - i - 2)).find?
              (fun d => !((src.chars[i + 1 + d]?).any publicIdChar)) with
          | some d => .error (src.fail .badPublicId (i + 1 + d))
          | none => go .systemId
        | _ => wrong
      | .systemId =>
        match t with
        | .blank => go stage
        | .literal => prolog src { dtd with external := true } fuel .idsRead n
        | _ => wrong
      | .idsRead =>
        match t with
        | .blank => go stage
        | .openBracket => go .subset
        | .declClose => go .afterDoctype
        | _ => wrong
      | .subsetClosed =>
        match t with
        | .blank => go stage
        | .declClose => go .afterDoctype
        | _ => wrong
      | .subset =>
        match t with
        | .blank | .instruction | .comment => go stage
        | .declOpen =>
          match keyword src.chars (i + 2) n with
          | "ENTITY" => go (.declaring true [])
          | "ATTLIST" | "ELEMENT" | "NOTATION" => go (.declaring false [])
          | _ => wrong
        | .paramEntityRef =>
          prolog src { dtd with external := true, keepProcessing := dtd.standalone } fuel stage n
        | .closeBracket => go .subsetClosed
        | _ => wrong
      | .declaring entity parts =>
        match t with
        | .declClose => prolog src (declare dtd entity parts) fuel .subset n
        | .blank => go stage
        | .xmlDeclaration | .paramEntityRef | .instruction | .comment | .instanceStart
        | .openBracket | .closeBracket | .declOpen => wrong
        | _ => go (.declaring entity ((t, slice src.chars i n) :: parts))

/-- An element still open: its name as written, which its end tag must repeat; its tag and
attributes with their namespaces; its character data so far; whether a child element has
started; its children so far, the latest first; and the namespaces bound inside it, the
innermost first (the default namespace under no qualifier). -/
structure Open where
  raw : String
  tag : String
  attributes : List (String × String)
  text : String
  sawChild : Bool
  children : List Element
  scope : List (Option String × String)

def Open.close (o : Open) : Element :=
  .mk o.tag o.attributes (if o.text.isEmpty then none else some o.text) o.children.reverse

def addText (t : String) : List Open → List Open
  | o :: rest => (if o.sawChild then o else { o with text := o.text ++ t }) :: rest
  | [] => []

def findChar (cs : Array Char) (c : Char) (i : Nat) : Nat :=
  go i (cs.size - i)
where
  go (i : Nat) : Nat → Nat
    | 0 => i
    | n + 1 => if cs[i]? == some c then i else go (i + 1) n

def attributeSpans (cs : Array Char) : Nat → Nat → List (Nat × Nat × Nat × Nat)
  | 0, _ => []
  | fuel + 1, j =>
    let a := skipKinds cs Kind.isBlank j
    match kindAt cs a with
    | some k =>
      if k.startsName then
        let b := skipKinds cs (fun k => k.inName || k = .colon) a
        let q := skipKinds cs (fun k => k.isBlank || k = .equals) b
        let close := match cs[q]? with
          | some quote => findChar cs quote (q + 1)
          | none => q
        (a, b, q + 1, close) :: attributeSpans cs fuel (close + 1)
      else []
    | none => []

/-- The value of an attribute between two indices: references replaced, and every blank, line
end and carriage return with line feed read as one space. A character reference to a character
a document may not hold is a problem at its `&`, and a reference to an undeclared entity where
those are checked is one at the tag (which starts at `place`); an undeclared entity that is not
checked stands for nothing. -/
def attributeText (cs : Array Char) (dtd : Dtd) (place stop : Nat) :
    Nat → Nat → String → Except (Problem × Nat) String
  | 0, _, acc => .ok acc
  | fuel + 1, j, acc =>
    if stop ≤ j then .ok acc
    else
      match cs[j]? with
      | some '&' =>
        let r := (scanRef cs (j + 1)).2
        if cs[j + 1]? == some '#' then
          match referencedChar cs j r with
          | some c => attributeText cs dtd place stop fuel r (acc.push c)
          | none => .error (.badCharacterReference, j)
        else
          let name := slice cs (j + 1) (r - 1)
          match predefined name, dtd.entities.lookup name with
          | some t, _ | none, some t => attributeText cs dtd place stop fuel r (acc ++ t)
          | none, none =>
            if dtd.checksEntities then .error (.undefinedEntity, place)
            else attributeText cs dtd place stop fuel r acc
      | some '\r' =>
        attributeText cs dtd place stop fuel (if cs[j + 1]? == some '\n' then j + 2 else j + 1) (acc.push ' ')
      | some c =>
        attributeText cs dtd place stop fuel (j + 1) (acc.push (if (kind c).isBlank then ' ' else c))
      | none => .ok acc

def lookupNamespace (scope : List (Option String × String)) (q : Option String) :
    Option String :=
  match (scope.find? (·.1 == q)).map (·.2) with
  | some "" => none
  | r => r

/-- Binds a qualifier (or the default namespace) to a namespace name. Only the default
namespace may be unbound; `xmlns` may not be bound, `xml` only to its own namespace, and
nothing else to that one or to the namespace of declarations; a namespace name may not hold
`}`. -/
def bindNamespace (scope : List (Option String × String)) (q : Option String) (uri : String) :
    Except Problem (List (Option String × String)) :=
  if uri.isEmpty && q.isSome then .error .undeclaredNamespace
  else if q = some "xmlns" then .error .reservedXmlnsName
  else if uri.contains '\x7d' then .error .unexpected
  else
    let mustBeXml := q = some "xml"
    let isXml := uri = xmlNamespace
    if mustBeXml ≠ isXml then .error (if mustBeXml then .reservedXmlName else .reservedNamespace)
    else if uri = xmlnsNamespace then .error .reservedNamespace
    else .ok ((q, uri) :: scope)

def qualified (uri localName : String) : String := "\x7b" ++ uri ++ "\x7d" ++ localName

def splitName (name : String) : Option (String × String) :=
  match name.splitOn ":" with
  | [q, l] => some (q, l)
  | _ => none

/-- What a start tag gives: its name as written, its tag and attributes with their namespaces,
and the namespaces bound inside it. -/
structure StartTag where
  raw : String
  tag : String
  attributes : List (String × String)
  scope : List (Option String × String)

def readAttributes (cs : Array Char) (dtd : Dtd) (place : Nat) :
    List (Nat × Nat × Nat × Nat) → List String → List (Option String × String) →
      Except (Problem × Nat) (List (String × String) × List (Option String × String))
  | [], _, scope => .ok ([], scope)
  | (a, b, v, w) :: rest, seen, scope => do
    let name := slice cs a b
    if seen.contains name then throw (.duplicateAttribute, a)
    let value ← attributeText cs dtd place w (w - v + 1) v ""
    let declared := if name = "xmlns" then some none
      else match splitName name with
        | some ("xmlns", l) => some (some l)
        | _ => none
    match declared with
    | some q =>
      let scope ← (bindNamespace scope q value).mapError (·, place)
      readAttributes cs dtd place rest (name :: seen) scope
    | none =>
      let (others, scope) ← readAttributes cs dtd place rest (name :: seen) scope
      return ((name, value) :: others, scope)

def qualifyAttributes (scope : List (Option String × String)) (place : Nat) :
    List (String × String) → List String → Except (Problem × Nat) (List (String × String))
  | [], _ => .ok []
  | (name, value) :: rest, seen =>
    match splitName name with
    | some (q, l) =>
      match lookupNamespace scope (some q) with
      | none => .error (.unboundNamespace, place)
      | some uri =>
        let full := qualified uri l
        if seen.contains full then .error (.duplicateAttribute, place)
        else (qualifyAttributes scope place rest (full :: seen)).map ((full, value) :: ·)
    | none => (qualifyAttributes scope place rest seen).map ((name, value) :: ·)

def startTag (cs : Array Char) (dtd : Dtd) (scope : List (Option String × String)) (i : Nat) :
    Except (Problem × Nat) StartTag := do
  let nameStop := skipKinds cs (fun k => k.inName || k = .colon) (i + 1)
  let raw := slice cs (i + 1) nameStop
  let spans := attributeSpans cs (cs.size + 1) nameStop
  let (attrs, scope) ← readAttributes cs dtd i spans [] scope
  let attrs ← qualifyAttributes scope i attrs []
  let tag ← match splitName raw with
    | some (q, l) =>
      match lookupNamespace scope (some q) with
      | some uri => pure (qualified uri l)
      | none => throw (.unboundNamespace, i)
    | none =>
      match lookupNamespace scope none with
      | some uri => pure (qualified uri raw)
      | none => pure raw
  return ⟨raw, tag, attrs, scope⟩

/-- Reads a character data section from `i`, after its opening: its text and the index after
it. A section that the end of the document cuts off, even inside a token, is unclosed. -/
def sectionText (src : Source) : Nat → Nat → String → Except Failure (String × Nat)
  | 0, i, _ => .error (src.fail .unclosedSection i)
  | fuel + 1, i, acc =>
    let (t, n) := src.token sectionToken i
    match t with
    | .data => sectionText src fuel n (acc ++ slice src.chars i n)
    | .newline => sectionText src fuel n (acc.push '\n')
    | .sectionClose => .ok (acc, n)
    | .invalid => .error (src.fail .invalidToken n)
    | _ => .error (src.fail .unclosedSection i)

/-- Where the reader is inside the document element: the open elements, innermost first, or
the document element once it has closed. -/
inductive Inside where
  | within (stack : List Open)
  | closed (root : Element)

def finish (e : Element) : List Open → Inside
  | o :: rest => .within ({ o with sawChild := true, children := e :: o.children } :: rest)
  | [] => .closed e

def rootScope : List (Option String × String) := [(some "xml", xmlNamespace)]

def content (src : Source) (dtd : Dtd) : Nat → Nat → List Open → Except Failure (Element × Nat)
  | 0, i, _ => .error (src.fail .noElement i)
  | fuel + 1, i, stack =>
    let cs := src.chars
    let (t, n) := src.token contentToken i
    let step := fun (inside : Inside) =>
      match inside with
      | .within stack => content src dtd fuel n stack
      | .closed root => .ok (root, n)
    match t with
    | .none | .trailingCr => .error (src.fail .noElement i)
    | .trailingRsqb => .error (src.fail .noElement cs.size)
    | .invalid => .error (src.fail .invalidToken n)
    | .unfinished => .error (src.fail .unclosedToken i)
    | .data => step (.within (addText (slice cs i n) stack))
    | .newline => step (.within (addText "\n" stack))
    | .charRef =>
      match referencedChar cs i n with
      | some c => step (.within (addText (String.singleton c) stack))
      | none => .error (src.fail .badCharacterReference i)
    | .entityRef =>
      let name := slice cs (i + 1) (n - 1)
      match predefined name, dtd.entities.lookup name with
      | some text, _ | none, some text => step (.within (addText text stack))
      | none, none =>
        if dtd.checksEntities then .error (src.fail .undefinedEntity i)
        else .error (src.fail (.unresolvedEntity (String.ofList ((slice cs i n).toList.take 100))) i)
    | .startTag | .emptyElement =>
      let scope := match stack with
        | o :: _ => o.scope
        | [] => rootScope
      match startTag cs dtd scope i with
      | .error (p, place) => .error (src.fail p place)
      | .ok tag =>
        if t = .emptyElement then step (finish (.mk tag.tag tag.attributes none []) stack)
        else step (.within (⟨tag.raw, tag.tag, tag.attributes, "", false, [], tag.scope⟩ :: stack))
    | .endTag =>
      match stack with
      | top :: rest =>
        let raw := slice cs (i + 2) (skipKinds cs (fun k => k.inName || k = .colon) (i + 2))
        if raw ≠ top.raw then .error (src.fail .mismatchedTag (i + 2))
        else step (finish top.close rest)
      | [] => .error (src.fail .unexpected i)
    | .sectionOpen =>
      match sectionText src (cs.size + 1) n "" with
      | .ok (text, after) => content src dtd fuel after (addText text stack)
      | .error f => .error f
    | .instruction | .comment => step (.within stack)
    | .xmlDeclaration => .error (src.fail .misplacedDeclaration i)
    | _ => .error (src.fail .unexpected i)

def epilog (src : Source) : Nat → Nat → Except Failure Unit
  | 0, _ => .ok ()
  | fuel + 1, i =>
    let (t, n) := src.token prologToken i
    match t with
    | .none => .ok ()
    | .blank | .instruction | .comment => epilog src fuel n
    | .invalid => .error (src.fail .invalidToken n)
    | .unfinished => .error (src.fail .unclosedToken i)
    | _ => .error (src.fail .junkAfterDocument i)

def Source.ofText (text : String) : Source :=
  let bytes := text.toUTF8
  match formOf bytes with
  | .utf8 => ⟨text.toList.toArray, .utf8, false⟩
  | .utf16 big => ⟨(unitChars (units big bytes.toList)).toArray, .utf16 big, bytes.size % 2 = 1⟩

/-- Reads a document: its document element, or why it could not be read. A byte order mark
that opens a UTF-8 document is skipped. -/
def parse (text : String) : Except Failure Element := do
  let src := Source.ofText text
  let fuel := text.utf8ByteSize + 2
  let start := if src.form = .utf8 && src.chars[0]? == some (Char.ofNat 0xFEFF) then 1 else 0
  let (src, dtd, i) ← prolog src .initial fuel .start start
  let (root, j) ← content src dtd fuel i []
  epilog src fuel j
  return root

end Markup

end SpinLidar
