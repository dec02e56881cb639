import SchemaBinding.Schema.Primitive
import SchemaBinding.Text.Blank

/-!
# `SchemaBinding.Schema.Builtins`: prefixed names and the schema namespace

Names in a schema may carry a prefix. The prefix that stands for the XML Schema namespace decides which
type names are built in and which tags the builder reacts to.
-/

set_option autoImplicit false

namespace SchemaBinding

/-- The XML Schema namespace. -/
def schemaNamespace : String := "http://www.w3.org/2001/XMLSchema"

/-- A name with its prefix, which is empty when the name has none. -/
structure PrefixedName where
  nsPrefix : String
  localPart : String
  deriving Repr, DecidableEq, Inhabited

/-- Splits a name at its last colon. -/
def PrefixedName.ofString (raw : String) : PrefixedName :=
  let reversed := raw.toList.reverse
  let localPart := String.ofList (reversed.takeWhile (· ≠ ':')).reverse
  match reversed.dropWhile (· ≠ ':') with
  | [] => ⟨"", localPart⟩
  | _ :: front => ⟨String.ofList front.reverse, localPart⟩

/-- The part of a name after its last colon. -/
def localPart (raw : String) : String := (PrefixedName.ofString raw).localPart

/-- The constructs of a schema that the builder reacts to. -/
inductive Tag where
  | schema
  | element
  | complexType
  | group
  | sequence
  | choice
  | all
  | any
  | anyAttribute
  | attribute
  | attributeGroup
  | simpleType
  | simpleContent
  | complexContent
  | restriction
  | «extension»
  | enumeration
  | minInclusive
  | maxInclusive
  | union
  | list
  | whiteSpace
  | annotated
  | documentation
  | other
  deriving Repr, DecidableEq, Inhabited

/-- The construct with a local name. -/
def Tag.ofLocalName : String → Tag
  | "schema" => .schema
  | "element" => .element
  | "complexType" => .complexType
  | "group" => .group
  | "sequence" => .sequence
  | "choice" => .choice
  | "all" => .all
  | "any" => .any
  | "anyAttribute" => .anyAttribute
  | "attribute" => .attribute
  | "attributeGroup" => .attributeGroup
  | "simpleType" => .simpleType
  | "simpleContent" => .simpleContent
  | "complexContent" => .complexContent
  | "restriction" => .restriction
  | "extension" => .extension
  | "enumeration" => .enumeration
  | "minInclusive" => .minInclusive
  | "maxInclusive" => .maxInclusive
  | "union" => .union
  | "list" => .list
  | "whiteSpace" => .whiteSpace
  | "annotation" => .annotated
  | "documentation" => .documentation
  | _ => .other

/-- What a type name refers to. A named type goes by its local part. -/
inductive TypeRef where
  | primitive (p : Primitive)
  | anyType
  | named (name : String)
  deriving Repr, DecidableEq, Inhabited

/-- The schema namespace, bound to the prefix that a document uses for it. The empty prefix stands for
names without one. -/
structure Builtins where
  nsPrefix : String
  deriving Repr, DecidableEq

namespace Builtins

/-- The prefix assumed when neither the caller nor the document names one. -/
def defaultPrefix : String := "xs"

/-- Binds a prefix, which may be given with the colon behind it. -/
def ofPrefix (raw : String) : Builtins :=
  ⟨String.ofList (Text.dropTailWhile (· = ':') raw.toList)⟩

instance : Inhabited Builtins := ⟨ofPrefix defaultPrefix⟩

/-- The local part of a name in the schema namespace. -/
def localName? (b : Builtins) (raw : String) : Option String :=
  let name := PrefixedName.ofString raw
  if name.nsPrefix = b.nsPrefix then some name.localPart else none

/-- The built-in type that a name refers to. -/
def primitive? (b : Builtins) (raw : String) : Option Primitive :=
  (b.localName? raw).bind Primitive.ofLocalName?

def isAnyType (b : Builtins) (raw : String) : Bool :=
  b.localName? raw = some "anyType"

/-- What a type name refers to under this prefix. -/
def classify (b : Builtins) (raw : String) : TypeRef :=
  match b.primitive? raw with
  | some p => .primitive p
  | none => if b.isAnyType raw then .anyType else .named (localPart raw)

/-- The construct that a tag name opens. -/
def tag (b : Builtins) (raw : String) : Tag :=
  match b.localName? raw with
  | some name => .ofLocalName name
  | none => .other

/-- A local name as the schema would write it. -/
def qualify (b : Builtins) (name : String) : String :=
  if b.nsPrefix.isEmpty then name else b.nsPrefix ++ ":" ++ name

/-- The name of the string type, which untyped attributes have. -/
def stringType (b : Builtins) : String :=
  b.qualify Primitive.string.localName

end Builtins

end SchemaBinding
