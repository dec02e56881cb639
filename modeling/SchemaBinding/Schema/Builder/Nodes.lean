import SchemaBinding.Schema.Builder

/-!
# `SchemaBinding.Schema.Builder.Nodes`: start tags that declare nodes

Elements, complex types, wildcards and groups each add a node and open a frame for it. A complex type inside
an element is the exception: it lends its attributes to that element.
-/

set_option autoImplicit false

namespace SchemaBinding.Builder

/-- A truth value as schemas write it; everything but `1` and `true` is false. -/
def readBool (value : String) : Bool :=
  let word := Text.trimmed value.toList
  word = ['1'] || word.map Char.toLower = "true".toList

/-- Sets what a tag says about mixed content, if it says anything. -/
def withMixed (attributes : Attributes) (n : Node) : Node :=
  match attributes.get? "mixed" with
  | some value => { n with mixed := readBool value, mixedDeclared := some (readBool value) }
  | none => n

/-- Sets how often a particle occurs. -/
def withOccurs (bounds : Nat × MaxOccurs) (n : Node) : Node :=
  { n with minOccurs := bounds.1, maxOccurs := bounds.2 }

/-- The node that an `element` or `complexType` tag declares, but for its occurrences. -/
def declaredNode (b : Builder) (kind : NodeKind) (attributes : Attributes) : Node :=
  let name := (attributes.get? "name").map localPart
  let type := (attributes.get? "type").map b.typeName
  let reference := (attributes.get? "ref").map localPart
  let node := Node.ofKind kind ((name.or (type.or reference)).getD "")
  withMixed attributes
    { node with
      rawType := (type.or reference).getD ""
      reference := reference
      isExplicitlyDefined := type.isNone && reference.isNone
      isTopLevel := b.atTopLevel
      default? := attributes.get? "default"
      isAbstract := ((attributes.get? "abstract").map readBool).getD false }

/-- Notes the substitution group that an element names, when the element has a name of its own. -/
def noteSubstitution (b : Builder) (attributes : Attributes) : Builder :=
  match attributes.get? "substitutionGroup", (attributes.get? "name").map localPart with
  | some head, some member => b.modifyModel (·.modifySymbols (·.addSubstitute (localPart head) member))
  | _, _ => b

/-- Opens an element or a top-level complex type. -/
def startNode (b : Builder) (kind : NodeKind) (tag : String) (attributes : Attributes) :
    Except SchemaError (Builder × Closing) := do
  let unnamed := (attributes.get? "name").isNone
  if b.atTopLevel && unnamed && (kind = .complexType || (attributes.get? "ref").isNone) then
    throw (.missingAttribute tag "name")
  let bounds ← b.occurs tag attributes
  let node := withOccurs bounds (b.declaredNode kind attributes)
  return ((b.noteSubstitution attributes).pushNode node, .popNode)

/-- Takes the attributes of a complex type inside an element over to that element. -/
def lendComplexType (b : Builder) (attributes : Attributes) : Builder :=
  b.modifyCurrent fun n =>
    let n := withMixed attributes n
    match attributes.get? "abstract" with
    | some value => { n with isAbstract := readBool value }
    | none => n

/-- Opens a wildcard. -/
def startWildcard (b : Builder) (tag : String) (attributes : Attributes) :
    Except SchemaError (Builder × Closing) := do
  let bounds ← b.occurs tag attributes
  return (b.pushNode (withOccurs bounds (Node.ofKind .wildcard "")), .popNode)

/-- Opens a group. At the top level a group without a reference is a definition, elsewhere one with a
reference is a reference; other groups are read and left out. -/
def startGroup (b : Builder) (tag : String) (attributes : Attributes) :
    Except SchemaError (Builder × Closing) := do
  match b.atTopLevel, (attributes.get? "ref").map localPart with
  | true, none =>
    match (attributes.get? "name").map localPart with
    | none => throw (.missingAttribute tag "name")
    | some name =>
      return (b.pushNode { Node.ofKind .group name with isTopLevel := true }, .popGroup .definition)
  | false, some reference =>
    let bounds ← b.occurs tag attributes
    let node := { Node.ofKind .groupRef reference with groupRef := some reference }
    return (b.pushNode (withOccurs bounds node), .popGroup .reference)
  | _, _ =>
    return (b.pushNode (Node.ofKind .group ((attributes.get? "name").getD "")), .popGroup .ignored)

end SchemaBinding.Builder
