import SchemaBinding.Schema.Primitive
import SchemaBinding.Schema.Table

/-!
# `SchemaBinding.Schema.Declaration`: attributes, simple types and nodes

The declarations that a schema is made of. A node is an element, a complex type, a group or a wildcard.
The last fields of an attribute and of a node are empty until names and types are resolved.
-/

set_option autoImplicit false

namespace SchemaBinding

/-- The place of a node in its model. The schema root has index zero. -/
structure NodeId where
  index : Nat
  deriving Repr, DecidableEq, Hashable, Inhabited

/-- The number of a node in reports, which counts from one. -/
def NodeId.number (id : NodeId) : Nat := id.index + 1

/-- How often a particle may occur at most. -/
inductive MaxOccurs where
  | unbounded
  | count (n : Nat)
  deriving Repr, DecidableEq

instance : Inhabited MaxOccurs := ⟨.count 1⟩

/-- Whether a particle may occur more than once. -/
def MaxOccurs.isRepeated : MaxOccurs → Bool
  | unbounded => true
  | count n => 1 < n

/-- Whether an attribute has to be there. -/
inductive AttributeUse where
  | optional
  | required
  deriving Repr, DecidableEq, Inhabited

/-- Restrictions on the values of a type: the values allowed, and the bounds of a range. -/
structure Facets where
  enumeration : List String := []
  minimum : Option String := none
  maximum : Option String := none
  deriving Repr, DecidableEq, Inhabited

/-- Whether any value is excluded. -/
def Facets.isRestricted (f : Facets) : Bool :=
  !f.enumeration.isEmpty || f.minimum.isSome || f.maximum.isSome

/-- What the declared type of a node comes down to. -/
inductive ResolvedType where
  | primitive (p : Primitive)
  /-- A complex type, by the name of its registered declaration. -/
  | named (name : String)
  /-- Content of any type. -/
  | any
  deriving Repr, DecidableEq, Inhabited

/-- The kinds of nodes. -/
inductive NodeKind where
  | schema
  | element
  | complexType
  /-- The definition of a group, which is no part of the tree. -/
  | group
  /-- A reference to a group, which stands for the content of that group. -/
  | groupRef
  | wildcard
  deriving Repr, DecidableEq, Inhabited

/-- The declaration of an attribute. -/
structure AttributeDef where
  name : String
  cleanName : String
  declaredType : String
  use : AttributeUse := .optional
  default? : Option String := none
  facets : Facets := {}
  /-- The built-in type behind the declared one. -/
  resolvedType : Option Primitive := none
  /-- The simple type that the declared type goes through. -/
  simpleTypeName : Option String := none
  deriving Repr, DecidableEq, Inhabited

/-- An attribute as it is declared, before it is resolved. -/
def AttributeDef.declared (name declaredType : String) : AttributeDef :=
  { name := name, cleanName := name, declaredType := declaredType }

/-- The attributes of a type, by name and in the order of their declaration. -/
abbrev AttributeMap : Type := Table AttributeDef

/-- The declaration of a simple type. -/
structure SimpleTypeDef where
  name : String
  /-- The restricted type or the type of the list items, as written. -/
  base : Option String := none
  isList : Bool := false
  facets : Facets := {}
  unionMembers : List String := []
  documentation : String := ""
  collapseWhiteSpace : Bool := false
  deriving Repr, DecidableEq, Inhabited

/-- The declaration of a group of attributes. -/
structure AttributeGroupDef where
  name : String
  attributes : AttributeMap := ∅
  /-- Other attribute groups that belong to this one. -/
  groupRefs : List String := []
  deriving Repr, DecidableEq, Inhabited

/-- The declaration of an element, a complex type, a group or a wildcard. -/
structure Node where
  kind : NodeKind
  name : String
  cleanName : String
  /-- The declared type. Built-in types keep their prefix, other names have none. -/
  rawType : String := ""
  reference : Option String := none
  base : Option String := none
  restrictionBase : Option String := none
  /-- The built-in types that simple content extends or restricts. -/
  simpleBases : List String := []
  children : List NodeId := []
  attributes : AttributeMap := ∅
  attributeGroupRefs : List String := []
  groupRef : Option String := none
  minOccurs : Nat := 1
  maxOccurs : MaxOccurs := .count 1
  mixed : Bool := false
  /-- What the schema says about mixed content, if it says anything. -/
  mixedDeclared : Option Bool := none
  isAbstract : Bool := false
  /-- Whether the node has content of its own instead of a type or a reference. -/
  isExplicitlyDefined : Bool := false
  isTopLevel : Bool := false
  hasSimpleContent : Bool := false
  anyAttribute : Bool := false
  documentation : String := ""
  default? : Option String := none
  facets : Facets := {}
  simpleTypeName : Option String := none
  collapseWhiteSpace : Bool := false
  resolvedType : Option ResolvedType := none
  isComplex : Bool := false
  isListType : Bool := false
  /-- Whether mixed content is inconsistent along the node's extension chain. -/
  mixedExtensionError : Bool := false
  /-- Whether another node extends this one. -/
  isExtended : Bool := false
  deriving Repr, DecidableEq

/-- A node of a kind, with a name and nothing else. -/
def Node.ofKind (kind : NodeKind) (name : String) : Node :=
  { kind := kind, name := name, cleanName := name }

instance : Inhabited Node := ⟨.ofKind .schema "schema"⟩

namespace Node

def isOptional (n : Node) : Bool := n.minOccurs == 0

def isRepeated (n : Node) : Bool := n.maxOccurs.isRepeated

def isWildcard (n : Node) : Bool := n.kind == .wildcard

/-- Whether the node becomes a generated type of its own. -/
def isEmittable (n : Node) : Bool := n.isExplicitlyDefined && n.isComplex

/-- The name of the node's type, which is the node's own name when it declares none. -/
def declaredType (n : Node) : String :=
  if n.rawType.isEmpty then n.name else n.rawType

end Node

end SchemaBinding
