namespace SpinLidar

namespace Yaml

/-- The tokens of a YAML text. A tag is kept as its handle and suffix; a scalar as its text and
whether it was written plain (without quotes or block indicator). -/
inductive Token where
  | streamStart
  | streamEnd
  | documentStart
  | documentEnd
  | blockSequenceStart
  | blockMappingStart
  | blockEnd
  | flowSequenceStart
  | flowMappingStart
  | flowSequenceEnd
  | flowMappingEnd
  | blockEntry
  | flowEntry
  | key
  | value
  | alias (name : String)
  | anchor (name : String)
  | tag (handle : Option String) (suffix : String)
  | scalar (text : String) (plain : Bool)
deriving Repr, DecidableEq, Inhabited

/-- A place where a simple key could start: the number of the token it would precede, whether
it must turn out to be a key, and where it is in the text. -/
structure SimpleKey where
  tokenNumber : Nat
  required : Bool
  index : Nat
  line : Nat
  column : Nat
deriving Repr

/-- The scanner: the text, the position (index, line, column), the bracket depth, the tokens so
far, the indentation column and the enclosing ones, whether a simple key may start here, the
possible simple keys by bracket depth, and whether the end has been reached. -/
structure Scanner where
  cs : Array Char
  index : Nat
  line : Nat
  column : Nat
  flowLevel : Nat
  tokens : Array Token
  indent : Int
  indents : List Int
  allowSimpleKey : Bool
  keys : List (Nat × SimpleKey)
  done : Bool

abbrev Scan := Except String Scanner

namespace Scanner

def peekAt (s : Scanner) (k : Nat) : Char := s.cs.getD (s.index + k) '\x00'

def peek (s : Scanner) : Char := s.peekAt 0

def ahead (s : Scanner) (n : Nat) : String :=
  String.ofList ((List.range n).map s.peekAt)

def isBreak (c : Char) : Bool :=
  c = '\r' || c = '\n' || c = '\x85' || c = '\u2028' || c = '\u2029'

def isBreakOrEnd (c : Char) : Bool := c = '\x00' || isBreak c

def isSpaceOrEnd (c : Char) : Bool := c = ' ' || isBreakOrEnd c

def isBlankOrEnd (c : Char) : Bool := c = '\t' || isSpaceOrEnd c

def isFlowIndicator (c : Char) : Bool :=
  c = ',' || c = '[' || c = ']' || c = '\x7b' || c = '\x7d'

def forward1 (s : Scanner) : Scanner :=
  if s.cs.size ≤ s.index then s
  else
    let c := s.peek
    let s := { s with index := s.index + 1 }
    if c = '\n' || c = '\x85' || c = '\u2028' || c = '\u2029' || (c = '\r' && s.peek ≠ '\n') then
      { s with line := s.line + 1, column := 0 }
    else if c = '\uFEFF' then s
    else { s with column := s.column + 1 }

def forward (s : Scanner) : Nat → Scanner
  | 0 => s
  | n + 1 => forward (forward1 s) n

def skipWhile (s : Scanner) (p : Char → Bool) : Scanner :=
  go s (s.cs.size + 1 - s.index)
where
  go (s : Scanner) : Nat → Scanner
    | 0 => s
    | n + 1 => if s.index < s.cs.size && p s.peek then go (forward1 s) n else s

def spanWhile (s : Scanner) (p : Char → Bool) : Nat :=
  (skipWhile s p).index - s.index

def lineBreak (s : Scanner) : String × Scanner :=
  let c := s.peek
  if c = '\r' || c = '\n' || c = '\x85' then
    if c = '\r' && s.peekAt 1 = '\n' then ("\n", s.forward 2) else ("\n", s.forward1)
  else if c = '\u2028' || c = '\u2029' then (String.singleton c, s.forward1)
  else ("", s)

def emit (s : Scanner) (t : Token) : Scanner := { s with tokens := s.tokens.push t }

def atDocumentMarker (s : Scanner) : Bool :=
  (s.ahead 3 == "---" || s.ahead 3 == "...") && isBlankOrEnd (s.peekAt 3)

/-- Skips spaces, comments and line breaks up to the next token. A line break in block context
lets a simple key start again. -/
def toNextToken (s : Scanner) : Scanner :=
  let s := if s.index = 0 && s.peek = '\uFEFF' then s.forward1 else s
  go s (s.cs.size + 1)
where
  go (s : Scanner) : Nat → Scanner
    | 0 => s
    | n + 1 =>
      let s := s.skipWhile (· = ' ')
      let s := if s.peek = '#' then s.skipWhile (fun c => !isBreakOrEnd c) else s
      let (br, s) := s.lineBreak
      if br.isEmpty then s
      else go (if s.flowLevel = 0 then { s with allowSimpleKey := true } else s) n

/-- Drops the possible simple keys that can no longer be keys: those on an earlier line or too
far back. A required one is an error. -/
def staleKeys (s : Scanner) : Scan :=
  let stale := fun (k : SimpleKey) => k.line ≠ s.line || s.index - k.index > 1024
  if s.keys.any (fun (_, k) => stale k && k.required) then .error "could not find expected ':'"
  else .ok { s with keys := s.keys.filter (fun (_, k) => !stale k) }

def removeKey (s : Scanner) : Scan :=
  match s.keys.lookup s.flowLevel with
  | some k =>
    if k.required then .error "could not find expected ':'"
    else .ok { s with keys := s.keys.filter (·.1 ≠ s.flowLevel) }
  | none => .ok s

def saveKey (s : Scanner) : Scan := do
  let required := s.flowLevel = 0 && s.indent = (s.column : Int)
  if s.allowSimpleKey then
    let s ← s.removeKey
    return { s with keys := (s.flowLevel, ⟨s.tokens.size, required, s.index, s.line, s.column⟩) ::
      s.keys }
  else return s

def unwindIndent (s : Scanner) (col : Int) : Scanner :=
  if s.flowLevel ≠ 0 then s else go s s.indents.length
where
  go (s : Scanner) : Nat → Scanner
    | 0 => s
    | n + 1 =>
      if col < s.indent then
        match s.indents with
        | i :: rest => go ({ s with indent := i, indents := rest }.emit .blockEnd) n
        | [] => s
      else s

def addIndent (s : Scanner) (col : Int) : Scanner × Bool :=
  if s.indent < col then ({ s with indents := s.indent :: s.indents, indent := col }, true)
  else (s, false)

def fetchStreamEnd (s : Scanner) : Scan := do
  let s := s.unwindIndent (-1)
  let s ← s.removeKey
  return { s.emit .streamEnd with allowSimpleKey := false, keys := [], done := true }

def fetchDocumentIndicator (s : Scanner) (t : Token) : Scan := do
  let s := s.unwindIndent (-1)
  let s ← s.removeKey
  return ({ s with allowSimpleKey := false }.forward 3).emit t

def fetchFlowStart (s : Scanner) (t : Token) : Scan := do
  let s ← s.saveKey
  return ({ s with flowLevel := s.flowLevel + 1, allowSimpleKey := true }.forward1).emit t

/-- A closing bracket. One that closes nothing cannot belong to any document. -/
def fetchFlowEnd (s : Scanner) (t : Token) : Scan := do
  let s ← s.removeKey
  if s.flowLevel = 0 then throw "unexpected closing bracket"
  return ({ s with flowLevel := s.flowLevel - 1, allowSimpleKey := false }.forward1).emit t

def fetchFlowEntry (s : Scanner) : Scan := do
  let s ← { s with allowSimpleKey := true }.removeKey
  return s.forward1.emit .flowEntry

def fetchBlockEntry (s : Scanner) : Scan := do
  let s ← if s.flowLevel = 0 then do
      if !s.allowSimpleKey then throw "sequence entries are not allowed here"
      let (s, opened) := s.addIndent s.column
      pure (if opened then s.emit .blockSequenceStart else s)
    else pure s
  let s ← { s with allowSimpleKey := true }.removeKey
  return s.forward1.emit .blockEntry

/-- An explicit key, `? `. -/
def fetchKey (s : Scanner) : Scan := do
  let s ← if s.flowLevel = 0 then do
      if !s.allowSimpleKey then throw "mapping keys are not allowed here"
      let (s, opened) := s.addIndent s.column
      pure (if opened then s.emit .blockMappingStart else s)
    else pure s
  let s ← { s with allowSimpleKey := s.flowLevel = 0 }.removeKey
  return s.forward1.emit .key

/-- A value indicator, `:`. When a simple key is pending at this depth, its `KEY` token (and the
start of a block mapping, when the key opens one) is inserted where the key began. -/
def fetchValue (s : Scanner) : Scan := do
  let s ← match s.keys.lookup s.flowLevel with
    | some k =>
      let s := { s with keys := s.keys.filter (·.1 ≠ s.flowLevel) }
      let s := { s with tokens := s.tokens.insertIdxIfInBounds k.tokenNumber .key }
      let s := if s.flowLevel = 0 then
          let (s, opened) := s.addIndent k.column
          if opened then { s with tokens := s.tokens.insertIdxIfInBounds k.tokenNumber .blockMappingStart }
          else s
        else s
      pure { s with allowSimpleKey := false }
    | none => do
      let s ← if s.flowLevel = 0 then do
          if !s.allowSimpleKey then throw "mapping values are not allowed here"
          let (s, opened) := s.addIndent s.column
          pure (if opened then s.emit .blockMappingStart else s)
        else pure s
      { s with allowSimpleKey := s.flowLevel = 0 }.removeKey
  return s.forward1.emit .value

def isAnchorChar (c : Char) : Bool := c.isAlphanum || c = '-' || c = '_'

/-- An anchor `&name` or an alias `*name`. The name must be followed by a blank or an
indicator. -/
def fetchAnchor (s : Scanner) (isAlias : Bool) : Scan := do
  let s ← s.saveKey
  let s := { s with allowSimpleKey := false }.forward1
  let n := s.spanWhile isAnchorChar
  if n = 0 then throw "expected alphabetic or numeric character"
  let name := s.ahead n
  let s := s.forward n
  let c := s.peek
  if !(isBlankOrEnd c || c = '?' || c = ':' || c = ',' || c = ']' || c = '\x7d' || c = '%' ||
      c = '@' || c = '\x60') then
    throw "expected alphabetic or numeric character"
  return s.emit (if isAlias then .alias name else .anchor name)

def isUriChar (c : Char) : Bool :=
  c.isAlphanum || "-;/?:@&=+$,_.!~*'()[]".contains c

/-- Reads a tag URI, which may not be empty. Escaped octets are not read. -/
def tagUri (s : Scanner) : Except String (String × Scanner) :=
  let n := s.spanWhile isUriChar
  if n = 0 then .error "expected URI" else .ok (s.ahead n, s.forward n)

def fetchTag (s : Scanner) : Scan := do
  let s ← s.saveKey
  let s := { s with allowSimpleKey := false }
  let c := s.peekAt 1
  let (handle, suffix, s) ← if c = '<' then do
      let (suffix, s) ← (s.forward 2).tagUri
      if s.peek ≠ '>' then throw "expected '>'"
      pure (none, suffix, s.forward1)
    else if isBlankOrEnd c then pure (none, "!", s.forward1)
    else do
      let rest := (s.forward1).spanWhile (fun d => !(isSpaceOrEnd d) && d ≠ '!')
      if (s.forward (rest + 1)).peek = '!' then
        let n := (s.forward1).spanWhile isAnchorChar
        if (s.forward (n + 1)).peek ≠ '!' then throw "expected '!'"
        let handle := s.ahead (n + 2)
        let (suffix, s) ← (s.forward (n + 2)).tagUri
        pure (some handle, suffix, s)
      else
        let (suffix, s) ← (s.forward1).tagUri
        pure (some "!", suffix, s)
  if !isSpaceOrEnd s.peek then throw "expected ' '"
  return s.emit (.tag handle suffix)

/-- The spaces and line breaks inside a plain scalar, folded: a single line break becomes a
space, further ones are kept. `none` when a document marker follows a line break, which ends
the scalar. -/
def plainSpaces (s : Scanner) : Option String × Scanner :=
  let n := s.spanWhile (· = ' ')
  let whitespace := s.ahead n
  let s := s.forward n
  if isBreak s.peek then
    let (br, s) := s.lineBreak
    let s := { s with allowSimpleKey := true }
    if s.atDocumentMarker then (none, s)
    else
      let rec breaks (s : Scanner) (acc : String) : Nat → Option String × Scanner
        | 0 => (some acc, s)
        | fuel + 1 =>
          if s.peek = ' ' then breaks s.forward1 acc fuel
          else if isBreak s.peek then
            let (b, s) := s.lineBreak
            if s.atDocumentMarker then (none, s) else breaks s (acc ++ b) fuel
          else (some acc, s)
      match breaks s "" (s.cs.size + 1) with
      | (none, s) => (none, s)
      | (some bs, s) =>
        (some ((if br ≠ "\n" then br else if bs.isEmpty then " " else "") ++ bs), s)
  else (some whitespace, s)

def plainEndsAt (s : Scanner) (k : Nat) : Bool :=
  let c := s.peekAt k
  let d := s.peekAt (k + 1)
  isBlankOrEnd c || (c = ':' && (isBlankOrEnd d || (s.flowLevel ≠ 0 && isFlowIndicator d))) ||
    (s.flowLevel ≠ 0 && (c = '?' || isFlowIndicator c))

def plainWord (s : Scanner) : Nat :=
  go 0 (s.cs.size + 1 - s.index)
where
  go (k : Nat) : Nat → Nat
    | 0 => k
    | fuel + 1 => if s.plainEndsAt k then k else go (k + 1) fuel

/-- The words of a plain scalar after the first `acc`, joined by their folded `spaces`; the
scalar ends at a comment, at a line indented less than `indent` (in block context), or where
no word follows. -/
def plainRest (indent : Int) (s : Scanner) (acc spaces : String) : Nat → String × Scanner
  | 0 => (acc, s)
  | fuel + 1 =>
    if s.peek = '#' then (acc, s)
    else
      let n := s.plainWord
      if n = 0 then (acc, s)
      else
        let acc := acc ++ spaces ++ s.ahead n
        let s := { s.forward n with allowSimpleKey := false }
        match s.plainSpaces with
        | (none, s) => (acc, s)
        | (some sp, s) =>
          if sp.isEmpty || s.peek = '#' || (s.flowLevel = 0 && (s.column : Int) < indent) then
            (acc, s)
          else plainRest indent s acc sp fuel

/-- A plain scalar: words separated by spaces and line breaks, ending at `: `, ` #`, a line
indented no deeper than the enclosing block, or (in brackets) an indicator. -/
def fetchPlain (s : Scanner) : Scan := do
  let s ← s.saveKey
  let s := { s with allowSimpleKey := false }
  let (text, s) := plainRest (s.indent + 1) s "" "" (s.cs.size + 1)
  return s.emit (.scalar text true)

def escapeChar : Char → Option Char
  | '0' => some '\x00'
  | 'a' => some '\x07'
  | 'b' => some '\x08'
  | 't' => some '\t'
  | '\t' => some '\t'
  | 'n' => some '\n'
  | 'v' => some '\x0b'
  | 'f' => some '\x0c'
  | 'r' => some '\r'
  | 'e' => some '\x1b'
  | ' ' => some ' '
  | '"' => some '"'
  | '/' => some '/'
  | '\\' => some '\\'
  | 'N' => some '\x85'
  | '_' => some '\xa0'
  | 'L' => some '\u2028'
  | 'P' => some '\u2029'
  | _ => none

def escapeWidth : Char → Option Nat
  | 'x' => some 2
  | 'u' => some 4
  | 'U' => some 8
  | _ => none

def hexDigit? (c : Char) : Option Nat :=
  if c.isDigit then some (c.toNat - '0'.toNat)
  else if 'a' ≤ c && c ≤ 'f' then some (c.toNat - 'a'.toNat + 10)
  else if 'A' ≤ c && c ≤ 'F' then some (c.toNat - 'A'.toNat + 10)
  else none

/-- The line breaks inside a quoted scalar after the first one, each kept. A document marker
there is an error. -/
def quotedBreaks (s : Scanner) : Except String (String × Scanner) :=
  go s "" (s.cs.size + 1)
where
  go (s : Scanner) (acc : String) : Nat → Except String (String × Scanner)
    | 0 => .ok (acc, s)
    | fuel + 1 =>
      if s.atDocumentMarker then .error "found unexpected document separator"
      else
        let s := s.skipWhile (fun c => c = ' ' || c = '\t')
        if isBreak s.peek then
          let (b, s) := s.lineBreak
          go s (acc ++ b) fuel
        else .ok (acc, s)

def quotedRun (double : Bool) (s : Scanner) : Except String (String × Scanner) :=
  go s "" (s.cs.size + 1)
where
  go (s : Scanner) (acc : String) : Nat → Except String (String × Scanner)
    | 0 => .ok (acc, s)
    | fuel + 1 =>
      let n := s.spanWhile (fun c => !(c = '\'' || c = '"' || c = '\\' || isBlankOrEnd c))
      let acc := acc ++ s.ahead n
      let s := s.forward n
      let c := s.peek
      if !double && c = '\'' && s.peekAt 1 = '\'' then go (s.forward 2) (acc.push '\'') fuel
      else if (double && c = '\'') || (!double && (c = '"' || c = '\\')) then
        go s.forward1 (acc.push c) fuel
      else if double && c = '\\' then
        let s := s.forward1
        let e := s.peek
        match escapeChar e, escapeWidth e with
        | some r, _ => go s.forward1 (acc.push r) fuel
        | none, some w =>
          let s := s.forward1
          let digits := (List.range w).map fun k => hexDigit? (s.peekAt k)
          if digits.any (·.isNone) then .error "expected escape sequence of hexadecimal numbers"
          else
            let code : Nat := digits.foldl (fun a d => a * 16 + d.getD 0) 0
            if code > 0x10FFFF then .error "character code out of range"
            else
              let ch := if code.isValidChar then Char.ofNat code else '\uFFFD'
              go (s.forward w) (acc.push ch) fuel
        | none, none =>
          if isBreak e then
            let (_, s) := s.lineBreak
            match quotedBreaks s with
            | .ok (bs, s) => go s (acc ++ bs) fuel
            | .error m => .error m
          else .error "found unknown escape character"
      else .ok (acc, s)

/-- The blanks and line breaks between runs of a quoted scalar, folded like those of a plain
scalar. The end of the text there is an error. -/
def quotedSpaces (s : Scanner) : Except String (String × Scanner) := do
  let n := s.spanWhile (fun c => c = ' ' || c = '\t')
  let whitespace := s.ahead n
  let s := s.forward n
  let c := s.peek
  if c = '\x00' then throw "found unexpected end of stream"
  if isBreak c then
    let (br, s) := s.lineBreak
    let (bs, s) ← s.quotedBreaks
    return ((if br ≠ "\n" then br else if bs.isEmpty then " " else "") ++ bs, s)
  else return (whitespace, s)

def quotedRest (double : Bool) (quote : Char) (s : Scanner) (acc : String) :
    Nat → Except String (String × Scanner)
  | 0 => .error "unterminated quoted scalar"
  | fuel + 1 =>
    if s.peek = quote then .ok (acc, s.forward1)
    else do
      let (sp, s) ← quotedSpaces s
      let (run, s) ← quotedRun double s
      quotedRest double quote s (acc ++ sp ++ run) fuel

def fetchQuoted (s : Scanner) (double : Bool) : Scan := do
  let s ← s.saveKey
  let s := { s with allowSimpleKey := false }
  let quote := s.peek
  let (first, s) ← quotedRun double s.forward1
  let (text, s) ← quotedRest double quote s first (s.cs.size + 1)
  return s.emit (.scalar text false)

def blockIndicators (s : Scanner) : Except String (Option Bool × Option Nat × Scanner) := do
  let digit := fun (c : Char) => if c.isDigit then some (c.toNat - '0'.toNat) else none
  let (chomp, inc, s) ← if s.peek = '+' || s.peek = '-' then do
      let chomp : Option Bool := some (s.peek == '+')
      let s := s.forward1
      match digit s.peek with
      | some 0 => throw "expected indentation indicator in the range 1-9"
      | some d => pure (chomp, some d, s.forward1)
      | none => pure (chomp, none, s)
    else
      match digit s.peek with
      | some 0 => throw "expected indentation indicator in the range 1-9"
      | some d =>
        let s := s.forward1
        if s.peek = '+' || s.peek = '-' then pure (some (s.peek == '+'), some d, s.forward1)
        else pure (none, some d, s)
      | none => pure (none, none, s)
  if !isSpaceOrEnd s.peek then throw "expected chomping or indentation indicators"
  return (chomp, inc, s)

def padTo (s : Scanner) (indent : Nat) : Scanner :=
  go s (indent + 1)
where
  go (s : Scanner) : Nat → Scanner
    | 0 => s
    | fuel + 1 => if s.column < indent && s.peek = ' ' then go s.forward1 fuel else s

def blockBreaks (s : Scanner) (indent : Nat) : String × Scanner :=
  go (s.padTo indent) "" (s.cs.size + 1)
where
  go (s : Scanner) (acc : String) : Nat → String × Scanner
    | 0 => (acc, s)
    | fuel + 1 =>
      if isBreak s.peek then
        let (b, s) := s.lineBreak
        go (s.padTo indent) (acc ++ b) fuel
      else (acc, s)

def blockIndentation (s : Scanner) : String × Nat × Scanner :=
  go s "" 0 (s.cs.size + 1)
where
  go (s : Scanner) (acc : String) (deepest : Nat) : Nat → String × Nat × Scanner
    | 0 => (acc, deepest, s)
    | fuel + 1 =>
      if s.peek = ' ' then
        let s := s.forward1
        go s acc (max deepest s.column) fuel
      else if isBreak s.peek then
        let (b, s) := s.lineBreak
        go s (acc ++ b) deepest fuel
      else (acc, deepest, s)

/-- The lines of a block scalar indented to `indent`: the text so far, the line breaks
pending after it, and the last line break read. Folding joins two lines that both start with a
non-blank by a space, when no empty line is between them. -/
def blockLines (folded : Bool) (indent : Nat) (s : Scanner) (acc breaks lastBreak : String) :
    Nat → String × String × String × Scanner
  | 0 => (acc, breaks, lastBreak, s)
  | fuel + 1 =>
    if s.column = indent && s.peek ≠ '\x00' then
      let acc := acc ++ breaks
      let leadingNonSpace := !(s.peek = ' ' || s.peek = '\t')
      let n := s.spanWhile (fun c => !isBreakOrEnd c)
      let acc := acc ++ s.ahead n
      let s := s.forward n
      let (br, s) := s.lineBreak
      let (bs, s) := s.blockBreaks indent
      if s.column = indent && s.peek ≠ '\x00' then
        let acc := if folded && br = "\n" && leadingNonSpace && !(s.peek = ' ' || s.peek = '\t')
          then (if bs.isEmpty then acc ++ " " else acc) else acc ++ br
        blockLines folded indent s acc bs br fuel
      else (acc, bs, br, s)
    else (acc, breaks, lastBreak, s)

def fetchBlockScalar (s : Scanner) (folded : Bool) : Scan := do
  let s ← { s with allowSimpleKey := true }.removeKey
  let (chomp, inc, s) ← blockIndicators s.forward1
  let s := s.skipWhile (· = ' ')
  let s := if s.peek = '#' then s.skipWhile (fun c => !isBreakOrEnd c) else s
  if !isBreakOrEnd s.peek then throw "expected a comment or a line break"
  let (_, s) := s.lineBreak
  let minIndent : Nat := max 1 (s.indent + 1).toNat
  let (breaks, indent, s) := match inc with
    | none =>
      let (bs, deepest, s) := s.blockIndentation
      (bs, max minIndent deepest, s)
    | some d =>
      let indent := minIndent + d - 1
      let (bs, s) := s.blockBreaks indent
      (bs, indent, s)
  let (text, breaks, lastBreak, s) := blockLines folded indent s "" breaks "" (s.cs.size + 1)
  let text := if chomp = some false then text else text ++ lastBreak
  let text := if chomp = some true then text ++ breaks else text
  return s.emit (.scalar text false)

def startsPlain (s : Scanner) : Bool :=
  let c := s.peek
  !(isBlankOrEnd c || "-?:,[]#&*!|>'\"%@".contains c || c = '\x7b' || c = '\x7d' ||
      c = '\x60') ||
    (!isBlankOrEnd (s.peekAt 1) && (c = '-' || (s.flowLevel = 0 && (c = '?' || c = ':'))))

def fetchMore (s : Scanner) : Scan := do
  let s ← s.toNextToken.staleKeys
  let s := s.unwindIndent s.column
  let c := s.peek
  let blankNext := isBlankOrEnd (s.peekAt 1)
  if c = '\x00' && s.cs.size ≤ s.index then s.fetchStreamEnd
  else if c = '%' && s.column = 0 then throw "directives are not read"
  else if c = '-' && s.column = 0 && s.atDocumentMarker then s.fetchDocumentIndicator .documentStart
  else if c = '.' && s.column = 0 && s.atDocumentMarker then s.fetchDocumentIndicator .documentEnd
  else if c = '[' then s.fetchFlowStart .flowSequenceStart
  else if c = '\x7b' then s.fetchFlowStart .flowMappingStart
  else if c = ']' then s.fetchFlowEnd .flowSequenceEnd
  else if c = '\x7d' then s.fetchFlowEnd .flowMappingEnd
  else if c = ',' then s.fetchFlowEntry
  else if c = '-' && blankNext then s.fetchBlockEntry
  else if c = '?' && (s.flowLevel ≠ 0 || blankNext) then s.fetchKey
  else if c = ':' && (s.flowLevel ≠ 0 || blankNext) then s.fetchValue
  else if c = '*' then s.fetchAnchor true
  else if c = '&' then s.fetchAnchor false
  else if c = '!' then s.fetchTag
  else if c = '|' && s.flowLevel = 0 then s.fetchBlockScalar false
  else if c = '>' && s.flowLevel = 0 then s.fetchBlockScalar true
  else if c = '\'' then s.fetchQuoted false
  else if c = '"' then s.fetchQuoted true
  else if s.startsPlain then s.fetchPlain
  else throw "found character that cannot start any token"

def isPrintable (c : Char) : Bool :=
  let n := c.toNat
  n = 0x9 || n = 0xA || n = 0xD || (0x20 ≤ n && n ≤ 0x7E) || n = 0x85 ||
    (0xA0 ≤ n && n ≤ 0xD7FF) || (0xE000 ≤ n && n ≤ 0xFFFD) || 0x10000 ≤ n

end Scanner

/-- The tokens of a text, from the stream start to the stream end. Every step of the scanner
reads at least one character or ends the stream, so the number of characters bounds the
steps. -/
def tokens (text : String) : Except String (Array Token) :=
  let cs := text.toList.toArray
  if !cs.all Scanner.isPrintable then .error "special characters are not allowed"
  else
    let s : Scanner := ⟨cs, 0, 0, 0, 0, #[.streamStart], -1, [], true, [], false⟩
    let rec go (s : Scanner) : Nat → Except String (Array Token)
      | 0 => .error "the scanner did not reach the end"
      | fuel + 1 =>
        if s.done then .ok s.tokens
        else
          match s.fetchMore with
          | .ok s' => go s' fuel
          | .error e => .error e
    go s (cs.size + 2)

end Yaml

end SpinLidar
