import SpinLidar.Markup.Names
namespace SpinLidar

namespace Markup

/-- The class of a character for the scanners. Characters beyond ASCII are name starters,
name characters, or other; the two noncharacters at the end of the basic plane fall with the
ASCII control characters as characters a document may not hold. -/
inductive Kind where
  | nonXml | lt | amp | rsqb | cr | lf | gt | quot | apos | equals | quest | excl | sol | semi
  | num | lsqb | blank | nmstrt | colon | hex | digit | name | minus | other | percnt | lpar
  | rpar | ast | plus | comma | verbar | wideStart | wideName | wideOther
deriving DecidableEq, Repr

def asciiKind : Nat → Kind
  | 0x09 => .blank | 0x0A => .lf | 0x0D => .cr | 0x20 => .blank | 0x21 => .excl
  | 0x22 => .quot | 0x23 => .num | 0x25 => .percnt | 0x26 => .amp | 0x27 => .apos
  | 0x28 => .lpar | 0x29 => .rpar | 0x2A => .ast | 0x2B => .plus | 0x2C => .comma
  | 0x2D => .minus | 0x2E => .name | 0x2F => .sol | 0x3A => .colon | 0x3B => .semi
  | 0x3C => .lt | 0x3D => .equals | 0x3E => .gt | 0x3F => .quest | 0x5B => .lsqb
  | 0x5D => .rsqb | 0x5F => .nmstrt | 0x7C => .verbar
  | n =>
    if n < 0x20 then .nonXml
    else if 0x30 ≤ n && n ≤ 0x39 then .digit
    else if (0x41 ≤ n && n ≤ 0x46) || (0x61 ≤ n && n ≤ 0x66) then .hex
    else if (0x47 ≤ n && n ≤ 0x5A) || (0x67 ≤ n && n ≤ 0x7A) then .nmstrt
    else .other

def kind (c : Char) : Kind :=
  let n := c.toNat
  if n < 0x80 then asciiKind n
  else if n = 0xFFFE || n = 0xFFFF then .nonXml
  else if wideNameStart c then .wideStart
  else if wideNameChar c then .wideName
  else .wideOther

namespace Kind

def startsName : Kind → Bool
  | .nmstrt | .hex | .wideStart => true
  | _ => false

def inName : Kind → Bool
  | .nmstrt | .hex | .digit | .name | .minus | .wideStart | .wideName => true
  | _ => false

def isBlank : Kind → Bool
  | .blank | .cr | .lf => true
  | _ => false

end Kind

/-- The kinds of token. -/
inductive Tok where
  | none | invalid | unfinished | trailingCr | trailingRsqb
  | data | newline | startTag | emptyElement | endTag | entityRef | charRef
  | instruction | xmlDeclaration | comment | sectionOpen | sectionClose
  | blank | declOpen | declClose | name | nmtoken | prefixedName | literal | instanceStart
  | openBracket | closeBracket | paramEntityRef | other
deriving DecidableEq, Repr

def kindAt (cs : Array Char) (i : Nat) : Option Kind := cs[i]?.map kind

def skipKinds (cs : Array Char) (p : Kind → Bool) (i : Nat) : Nat :=
  go i (cs.size - i)
where
  go (i : Nat) : Nat → Nat
    | 0 => i
    | n + 1 =>
      match kindAt cs i with
      | some k => if p k then go (i + 1) n else i
      | none => i

def nameEnd (cs : Array Char) (i : Nat) : Nat := skipKinds cs Kind.inName i

def scanRef (cs : Array Char) (i : Nat) : Tok × Nat :=
  match kindAt cs i with
  | none => (.unfinished, i)
  | some .num =>
    let (hex, start) := if cs[i + 1]? == some 'x' then (true, i + 2) else (false, i + 1)
    let digit := fun (k : Kind) => k = .digit || (hex && k = .hex)
    match kindAt cs start with
    | none => (.unfinished, start)
    | some k =>
      if !digit k then (.invalid, start)
      else
        let j := skipKinds cs digit (start + 1)
        match kindAt cs j with
        | none => (.unfinished, j)
        | some .semi => (.charRef, j + 1)
        | some _ => (.invalid, j)
  | some k =>
    if !k.startsName then (.invalid, i)
    else
      let j := nameEnd cs (i + 1)
      match kindAt cs j with
      | none => (.unfinished, j)
      | some .semi => (.entityRef, j + 1)
      | some _ => (.invalid, j)

def commentBody (cs : Array Char) : Nat → Nat → Tok × Nat
  | 0, j => (.unfinished, j)
  | fuel + 1, j =>
    match kindAt cs j with
    | none => (.unfinished, j)
    | some .nonXml => (.invalid, j)
    | some .minus =>
      match cs[j + 1]? with
      | none => (.unfinished, j + 1)
      | some '-' =>
        match cs[j + 2]? with
        | none => (.unfinished, j + 2)
        | some '>' => (.comment, j + 3)
        | some _ => (.invalid, j + 2)
      | some _ => commentBody cs fuel (j + 1)
    | some _ => commentBody cs fuel (j + 1)

def scanComment (cs : Array Char) (i : Nat) : Tok × Nat :=
  match cs[i]? with
  | none => (.unfinished, i)
  | some '-' => commentBody cs (cs.size + 1) (i + 1)
  | some _ => (.invalid, i)

def scanSectionOpen (cs : Array Char) (i : Nat) : Tok × Nat :=
  if cs.size < i + 6 then (.unfinished, cs.size)
  else
    match (List.range 6).find? (fun d => cs[i + d]? != "CDATA[".toList[d]?) with
    | some d => (.invalid, i + d)
    | none => (.sectionOpen, i + 6)

def instructionTarget (cs : Array Char) (a b : Nat) : Option Tok :=
  if b ≠ a + 3 then some .instruction
  else
    let t := ((cs.extract a b).toList.map Char.toLower)
    let exact := (cs.extract a b).toList == ['x', 'm', 'l']
    if t == ['x', 'm', 'l'] then (if exact then some .xmlDeclaration else Option.none)
    else some .instruction

def instructionBody (cs : Array Char) (tok : Tok) : Nat → Nat → Tok × Nat
  | 0, j => (.unfinished, j)
  | fuel + 1, j =>
    match kindAt cs j with
    | none => (.unfinished, j)
    | some .nonXml => (.invalid, j)
    | some .quest =>
      match cs[j + 1]? with
      | none => (.unfinished, j + 1)
      | some '>' => (tok, j + 2)
      | some _ => instructionBody cs tok fuel (j + 1)
    | some _ => instructionBody cs tok fuel (j + 1)

def scanInstruction (cs : Array Char) (i : Nat) : Tok × Nat :=
  match kindAt cs i with
  | none => (.unfinished, i)
  | some k =>
    if !k.startsName then (.invalid, i)
    else
      let j := nameEnd cs (i + 1)
      match kindAt cs j with
      | none => (.unfinished, j)
      | some k =>
        if k.isBlank then
          match instructionTarget cs i j with
          | none => (.invalid, j)
          | some tok => instructionBody cs tok (cs.size + 1) (j + 1)
        else if k = .quest then
          match instructionTarget cs i j with
          | none => (.invalid, j)
          | some tok =>
            match cs[j + 1]? with
            | none => (.unfinished, j + 1)
            | some '>' => (tok, j + 2)
            | some _ => (.invalid, j + 1)
        else (.invalid, j)

def emptyClose (cs : Array Char) (j : Nat) : Tok × Nat :=
  match cs[j]? with
  | none => (.unfinished, j)
  | some '>' => (.emptyElement, j + 1)
  | some _ => (.invalid, j)

mutual

def afterBlank (cs : Array Char) : Nat → Nat → Tok × Nat
  | 0, j => (.unfinished, j)
  | fuel + 1, j =>
    match kindAt cs j with
    | none => (.unfinished, j)
    | some k =>
      if k.startsName then attributes cs fuel (j + 1) false
      else if k = .gt then (.startTag, j + 1)
      else if k = .sol then emptyClose cs (j + 1)
      else if k.isBlank then afterBlank cs fuel (j + 1)
      else (.invalid, j)

/-- An attribute of a start tag from `j`, after the first character of its name: the rest of
its name (with at most one colon), `=`, and a quoted value, then the rest of the tag. -/
def attributes (cs : Array Char) : Nat → Nat → Bool → Tok × Nat
  | 0, j, _ => (.unfinished, j)
  | fuel + 1, j, hadColon =>
    let j := nameEnd cs j
    match kindAt cs j with
    | none => (.unfinished, j)
    | some .colon =>
      if hadColon then (.invalid, j)
      else
        match kindAt cs (j + 1) with
        | none => (.unfinished, j + 1)
        | some k => if k.startsName then attributes cs fuel (j + 2) true else (.invalid, j + 1)
    | some k =>
      let eq := if k.isBlank then skipKinds cs Kind.isBlank (j + 1) else j
      match kindAt cs eq with
      | none => (.unfinished, eq)
      | some .equals =>
        let q := skipKinds cs Kind.isBlank (eq + 1)
        match kindAt cs q with
        | none => (.unfinished, q)
        | some closing =>
          if closing = .quot || closing = .apos then attributeValue cs fuel closing (q + 1)
          else (.invalid, q)
      | some _ => (.invalid, eq)

/-- The value of an attribute from `j` on, up to its closing quote, then the rest of the
tag. A value may not hold `<`, and its references must be well formed. -/
def attributeValue (cs : Array Char) : Nat → Kind → Nat → Tok × Nat
  | 0, _, j => (.unfinished, j)
  | fuel + 1, closing, j =>
    match kindAt cs j with
    | none => (.unfinished, j)
    | some k =>
      if k = closing then
        match kindAt cs (j + 1) with
        | none => (.unfinished, j + 1)
        | some k =>
          if k.isBlank then afterBlank cs fuel (j + 2)
          else if k = .sol then emptyClose cs (j + 2)
          else if k = .gt then (.startTag, j + 2)
          else (.invalid, j + 1)
      else
        match k with
        | .nonXml => (.invalid, j)
        | .lt => (.invalid, j)
        | .amp =>
          match scanRef cs (j + 1) with
          | (.entityRef, n) | (.charRef, n) => attributeValue cs fuel closing n
          | r => r
        | _ => attributeValue cs fuel closing (j + 1)

end

def startTagName (cs : Array Char) : Nat → Nat → Bool → Tok × Nat
  | 0, j, _ => (.unfinished, j)
  | fuel + 1, j, hadColon =>
    let j := nameEnd cs j
    match kindAt cs j with
    | none => (.unfinished, j)
    | some .colon =>
      if hadColon then (.invalid, j)
      else
        match kindAt cs (j + 1) with
        | none => (.unfinished, j + 1)
        | some k => if k.startsName then startTagName cs fuel (j + 2) true else (.invalid, j + 1)
    | some k =>
      if k.isBlank then afterBlank cs (cs.size + 1) (j + 1)
      else if k = .gt then (.startTag, j + 1)
      else if k = .sol then emptyClose cs (j + 1)
      else (.invalid, j)

/-- The name of an end tag from `j`, after its first character, then optional blanks and `>`.
Colons are let through here: the name must match the start tag's anyway. -/
def endTagName (cs : Array Char) : Nat → Nat → Tok × Nat
  | 0, j => (.unfinished, j)
  | fuel + 1, j =>
    let j := nameEnd cs j
    match kindAt cs j with
    | none => (.unfinished, j)
    | some .colon => endTagName cs fuel (j + 1)
    | some .gt => (.endTag, j + 1)
    | some k =>
      if k.isBlank then
        let e := skipKinds cs Kind.isBlank (j + 1)
        match kindAt cs e with
        | none => (.unfinished, e)
        | some .gt => (.endTag, e + 1)
        | some _ => (.invalid, e)
      else (.invalid, j)

def scanMarkup (cs : Array Char) (i : Nat) : Tok × Nat :=
  match kindAt cs i with
  | none => (.unfinished, i)
  | some .excl =>
    match kindAt cs (i + 1) with
    | none => (.unfinished, i + 1)
    | some .minus => scanComment cs (i + 2)
    | some .lsqb => scanSectionOpen cs (i + 2)
    | some _ => (.invalid, i + 1)
  | some .quest => scanInstruction cs (i + 1)
  | some .sol =>
    match kindAt cs (i + 1) with
    | none => (.unfinished, i + 1)
    | some k =>
      if k.startsName then endTagName cs (cs.size + 1) (i + 2) else (.invalid, i + 1)
  | some k =>
    if k.startsName then startTagName cs (cs.size + 1) (i + 1) false else (.invalid, i)

def dataRun (cs : Array Char) : Nat → Nat → Tok × Nat
  | 0, j => (.data, j)
  | fuel + 1, j =>
    match kindAt cs j with
    | none => (.data, j)
    | some .rsqb =>
      if j + 2 < cs.size then
        if cs[j + 1]? == some ']' && cs[j + 2]? == some '>' then (.invalid, j + 2)
        else dataRun cs fuel (j + 1)
      else if j + 1 < cs.size && cs[j + 1]? != some ']' then dataRun cs fuel (j + 1)
      else (.data, j)
    | some k =>
      if k = .amp || k = .lt || k = .nonXml || k = .cr || k = .lf then (.data, j)
      else dataRun cs fuel (j + 1)

/-- A token inside the document element, at `i`. A line end is one token whether it is a
carriage return, a line feed or both; a carriage return or `]` that ends the document is a
token of its own. -/
def contentToken (cs : Array Char) (i : Nat) : Tok × Nat :=
  match kindAt cs i with
  | none => (.none, i)
  | some .lt => scanMarkup cs (i + 1)
  | some .amp => scanRef cs (i + 1)
  | some .cr =>
    match kindAt cs (i + 1) with
    | none => (.trailingCr, i + 1)
    | some .lf => (.newline, i + 2)
    | some _ => (.newline, i + 1)
  | some .lf => (.newline, i + 1)
  | some .rsqb =>
    match cs[i + 1]? with
    | none => (.trailingRsqb, i + 1)
    | some ']' =>
      match cs[i + 2]? with
      | none => (.trailingRsqb, i + 2)
      | some '>' => (.invalid, i + 2)
      | some _ => dataRun cs cs.size (i + 1)
    | some _ => dataRun cs cs.size (i + 1)
  | some .nonXml => (.invalid, i)
  | some _ => dataRun cs cs.size (i + 1)

def sectionRun (cs : Array Char) : Nat → Nat → Tok × Nat
  | 0, j => (.data, j)
  | fuel + 1, j =>
    match kindAt cs j with
    | none => (.data, j)
    | some k =>
      if k = .nonXml || k = .cr || k = .lf || k = .rsqb then (.data, j)
      else sectionRun cs fuel (j + 1)

def sectionToken (cs : Array Char) (i : Nat) : Tok × Nat :=
  match kindAt cs i with
  | none => (.none, i)
  | some .rsqb =>
    match cs[i + 1]? with
    | none => (.unfinished, i + 1)
    | some ']' =>
      match cs[i + 2]? with
      | none => (.unfinished, i + 2)
      | some '>' => (.sectionClose, i + 3)
      | some _ => sectionRun cs cs.size (i + 1)
    | some _ => sectionRun cs cs.size (i + 1)
  | some .cr =>
    match kindAt cs (i + 1) with
    | none => (.unfinished, i + 1)
    | some .lf => (.newline, i + 2)
    | some _ => (.newline, i + 1)
  | some .lf => (.newline, i + 1)
  | some .nonXml => (.invalid, i)
  | some _ => sectionRun cs cs.size (i + 1)

/-- A quoted literal from `j` on, after its opening quote of class `closing`. The character after
the closing quote must be a blank, `>`, `%` or `[`, if there is one. -/
def literalBody (cs : Array Char) (closing : Kind) : Nat → Nat → Tok × Nat
  | 0, j => (.unfinished, j)
  | fuel + 1, j =>
    match kindAt cs j with
    | none => (.unfinished, j)
    | some .nonXml => (.invalid, j)
    | some k =>
      if k = closing then
        match kindAt cs (j + 1) with
        | none => (.literal, j + 1)
        | some k =>
          if k.isBlank || k = .gt || k = .percnt || k = .lsqb then (.literal, j + 1)
          else (.invalid, j + 1)
      else literalBody cs closing fuel (j + 1)

def scanDeclaration (cs : Array Char) (i : Nat) : Tok × Nat :=
  match kindAt cs i with
  | none => (.unfinished, i)
  | some .minus => scanComment cs (i + 1)
  | some .lsqb => (.other, i + 1)
  | some .nmstrt | some .hex => go (cs.size + 1) (i + 1)
  | some _ => (.invalid, i)
where
  go : Nat → Nat → Tok × Nat
    | 0, j => (.unfinished, j)
    | fuel + 1, j =>
      match kindAt cs j with
      | none => (.unfinished, j)
      | some .percnt =>
        match kindAt cs (j + 1) with
        | none => (.unfinished, j + 1)
        | some k => if k.isBlank || k = .percnt then (.invalid, j) else (.declOpen, j)
      | some k =>
        if k.isBlank then (.declOpen, j)
        else if k = .nmstrt || k = .hex then go fuel (j + 1)
        else (.invalid, j)

def prologName (cs : Array Char) : Nat → Tok → Nat → Tok × Nat
  | 0, tok, j => (tok, j)
  | fuel + 1, tok, j =>
    let j := nameEnd cs j
    match kindAt cs j with
    | none => (tok, j)
    | some k =>
      if k = .gt || k = .rpar || k = .comma || k = .verbar || k = .lsqb || k = .percnt ||
          k.isBlank then (tok, j)
      else if k = .colon then
        match tok with
        | .name =>
          match kindAt cs (j + 1) with
          | none => (.unfinished, j + 1)
          | some k =>
            if k.inName then prologName cs fuel .prefixedName (j + 2)
            else prologName cs fuel .nmtoken (j + 1)
        | .prefixedName => prologName cs fuel .nmtoken (j + 1)
        | _ => prologName cs fuel tok (j + 1)
      else if k = .plus || k = .ast || k = .quest then
        if tok = .nmtoken then (.invalid, j) else (.other, j + 1)
      else (.invalid, j)

/-- A token before or after the document element, at `i`. A run of blanks does not split a
carriage return from the line feed after it. -/
def prologToken (cs : Array Char) (i : Nat) : Tok × Nat :=
  match kindAt cs i with
  | none => (.none, i)
  | some .quot => literalBody cs .quot (cs.size + 1) (i + 1)
  | some .apos => literalBody cs .apos (cs.size + 1) (i + 1)
  | some .lt =>
    match kindAt cs (i + 1) with
    | none => (.unfinished, i + 1)
    | some .excl => scanDeclaration cs (i + 2)
    | some .quest => scanInstruction cs (i + 2)
    | some k =>
      if k = .nmstrt || k = .hex || k = .wideStart || k = .wideName || k = .wideOther then
        (.instanceStart, i)
      else (.invalid, i + 1)
  | some .cr => if i + 1 = cs.size then (.blank, cs.size) else blanks (cs.size + 1) (i + 1)
  | some .blank | some .lf => blanks (cs.size + 1) (i + 1)
  | some .percnt =>
    match kindAt cs (i + 1) with
    | none => (.unfinished, i + 1)
    | some k =>
      if k.startsName then
        let e := nameEnd cs (i + 2)
        match kindAt cs e with
        | none => (.unfinished, e)
        | some .semi => (.paramEntityRef, e + 1)
        | some _ => (.invalid, e)
      else if k.isBlank || k = .percnt then (.other, i + 1)
      else (.invalid, i + 1)
  | some .comma => (.other, i + 1)
  | some .lsqb => (.openBracket, i + 1)
  | some .rsqb =>
    match cs[i + 1]? with
    | some ']' =>
      match cs[i + 2]? with
      | none => (.unfinished, i + 2)
      | some '>' => (.other, i + 3)
      | some _ => (.closeBracket, i + 1)
    | _ => (.closeBracket, i + 1)
  | some .lpar => (.other, i + 1)
  | some .rpar =>
    match kindAt cs (i + 1) with
    | none => (.other, i + 1)
    | some k =>
      if k = .ast || k = .quest || k = .plus then (.other, i + 2)
      else if k.isBlank || k = .gt || k = .comma || k = .verbar || k = .rpar then (.other, i + 1)
      else (.invalid, i + 1)
  | some .verbar => (.other, i + 1)
  | some .gt => (.declClose, i + 1)
  | some .num =>
    match kindAt cs (i + 1) with
    | none => (.unfinished, i + 1)
    | some k =>
      if !k.startsName then (.invalid, i + 1)
      else
        let e := nameEnd cs (i + 2)
        match kindAt cs e with
        | none => (.other, e)
        | some k =>
          if k.isBlank || k = .rpar || k = .gt || k = .percnt || k = .verbar then (.other, e)
          else (.invalid, e)
  | some k =>
    if k.startsName then prologName cs (cs.size + 1) .name (i + 1)
    else if k = .digit || k = .name || k = .minus || k = .colon || k = .wideName then
      prologName cs (cs.size + 1) .nmtoken (i + 1)
    else (.invalid, i)
where
  blanks : Nat → Nat → Tok × Nat
    | 0, j => (.blank, j)
    | fuel + 1, j =>
      match kindAt cs j with
      | some .blank | some .lf => blanks fuel (j + 1)
      | some .cr => if j + 1 = cs.size then (.blank, j) else blanks fuel (j + 1)
      | _ => (.blank, j)

end Markup

end SpinLidar
