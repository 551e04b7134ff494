namespace SpinLidar

namespace Markup

/-- An element: its tag, its attributes, its character data before the first child element
(none when that is empty), and its child elements in order. -/
inductive Element where
  | mk (tag : String) (attributes : List (String × String)) (text : Option String)
      (children : List Element)
deriving Inhabited

namespace Element

def tag : Element → String
  | .mk t _ _ _ => t

def attributes : Element → List (String × String)
  | .mk _ a _ _ => a

def text : Element → Option String
  | .mk _ _ t _ => t

def children : Element → List Element
  | .mk _ _ _ cs => cs

def child? (e : Element) (tag : String) : Option Element :=
  e.children.find? (·.tag == tag)

def childrenTagged (e : Element) (tag : String) : List Element :=
  e.children.filter (·.tag == tag)

mutual

def firstBelow (tag : String) : Element → Option Element
  | .mk _ _ _ cs => firstAmong tag cs

def firstAmong (tag : String) : List Element → Option Element
  | [] => none
  | c :: rest =>
    if c.tag == tag then some c
    else
      match firstBelow tag c with
      | some e => some e
      | none => firstAmong tag rest

end

end Element

/-- What makes a document not well formed. -/
inductive Problem where
  | unexpected
  | noElement
  | invalidToken
  | unclosedToken
  | mismatchedTag
  | duplicateAttribute
  | junkAfterDocument
  | parameterReference
  | undefinedEntity
  | badCharacterReference
  | misplacedDeclaration
  | unknownEncoding
  | incorrectEncoding
  | unclosedSection
  | unboundNamespace
  | undeclaredNamespace
  | malformedDeclaration
  | badPublicId
  | reservedXmlName
  | reservedXmlnsName
  | reservedNamespace
  /-- A reference to an entity that may have been declared outside the document, which the
  tree builder cannot resolve; it names the reference as written. -/
  | unresolvedEntity (reference : String)
deriving Repr, DecidableEq

def Problem.text : Problem → String
  | .unexpected => "syntax error"
  | .noElement => "no element found"
  | .invalidToken => "not well-formed (invalid token)"
  | .unclosedToken => "unclosed token"
  | .mismatchedTag => "mismatched tag"
  | .duplicateAttribute => "duplicate attribute"
  | .junkAfterDocument => "junk after document element"
  | .parameterReference => "illegal parameter entity reference"
  | .undefinedEntity => "undefined entity"
  | .badCharacterReference => "reference to invalid character number"
  | .misplacedDeclaration => "XML or text declaration not at start of entity"
  | .unknownEncoding => "unknown encoding"
  | .incorrectEncoding => "encoding specified in XML declaration is incorrect"
  | .unclosedSection => "unclosed CDATA section"
  | .unboundNamespace => "unbound prefix"
  | .undeclaredNamespace => "must not undeclare prefix"
  | .malformedDeclaration => "XML declaration not well-formed"
  | .badPublicId => "illegal character(s) in public id"
  | .reservedXmlName =>
    "reserved prefix (xml) must not be undeclared or bound to another namespace name"
  | .reservedXmlnsName => "reserved prefix (xmlns) must not be declared or undeclared"
  | .reservedNamespace => "prefix must not be bound to one of the reserved namespace names"
  | .unresolvedEntity reference => "undefined entity " ++ reference

/-- Why a document could not be read: it is not well formed (a problem, its line from 1 and
its column from 0), or its declaration names an encoding that is unknown, that is not a text
encoding, or that spends more than one byte on a character. -/
inductive Failure where
  | malformed (problem : Problem) (line column : Nat)
  | unknownCodec (name : String)
  | notTextCodec (name : String)
  | multiByteCodec
deriving Repr, DecidableEq

end Markup

end SpinLidar
