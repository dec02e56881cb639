import SchemaBinding.Resolve.TypeChains

/-!
# `SchemaBinding.Resolve.Types`: types of nodes and attributes

Each declaration gets the type that its type name comes down to, and takes over facets and white space
handling from the simple types on the way. Attributes get built-in types; one that identifies an
element counts as string.
-/

set_option autoImplicit false

namespace SchemaBinding

open Text (quoted)

/-- The resolution of a node that has no type, no simple type and nothing that registers it. -/
def contentless (m : Model) (n : Node) : Resolution :=
  match n.simpleBases.head?.bind m.builtins.primitive? with
  | some p => .ofPrimitive p
  | none => { type := .any }

/-- The resolution of a node by its declared type. -/
def resolveDeclaredType (m : Model) (n : Node) : Resolution × Diagnostics :=
  match m.builtins.classify n.declaredType with
  | .primitive p => (.ofPrimitive p, [])
  | .anyType => ({ type := .any }, [])
  | .named name =>
    if (m.element? name).isSome then chaseElements m n.name name
    else if (m.simpleType? name).isSome then
      let (chain, findings) := chaseSimple m n.name name
      (.ofChain name chain, findings)
    else if n.rawType.isEmpty then (contentless m n, [])
    else (.ofPrimitive .string, [undeclaredType n.name name])

/-- The simple type that stands inside of a node, for a node without a type name. -/
def Node.inlineSimpleType? (m : Model) (n : Node) : Option String :=
  if n.rawType.isEmpty then n.simpleTypeName.filter fun name => (m.simpleType? name).isSome else none

/-- The resolution of a node. -/
def resolveNode (m : Model) (n : Node) : Resolution × Diagnostics :=
  if n.isWildcard then ({ type := .any }, [])
  else
    match n.inlineSimpleType? m with
    | some name =>
      let (chain, findings) := chaseSimple m n.name name
      (.ofChain name chain, findings)
    | none => resolveDeclaredType m n

/-- Facets that keep what they restrict, and else take over what another restricts. -/
def Facets.orElse (f : Facets) (other : Option Facets) : Facets :=
  if f.isRestricted then f else other.getD f

/-- A node with its resolution. -/
def applyResolution (r : Resolution) (collapseFromBase : Bool) (n : Node) : Node :=
  { n with
    isComplex := !n.attributes.isEmpty || r.isComplex
    resolvedType := some r.type
    isListType := r.isList
    collapseWhiteSpace := n.collapseWhiteSpace || r.collapseWhiteSpace || collapseFromBase
    facets := n.facets.orElse r.facets
    simpleTypeName := n.simpleTypeName.or r.simpleTypeName }

/-- The finding for an attribute of an undeclared type. -/
def undeclaredAttributeType (owner key name : String) : Diagnostic :=
  Diagnostics.warning owner ("attribute " ++ quoted key ++ " has undeclared type " ++ quoted name ++
    "; using string")

/-- An attribute with its type. -/
def resolveAttribute (m : Model) (owner key : String) (d : AttributeDef) : AttributeDef × Diagnostics :=
  match m.builtins.classify d.declaredType with
  | .primitive p => ({ d with resolvedType := some (if p.isIdentifier then .string else p) }, [])
  | .anyType => ({ d with resolvedType := some .string }, [])
  | .named name =>
    if (m.simpleType? name).isSome then
      let (chain, findings) := chaseSimple m owner name
      ({ d with
          resolvedType := some chain.primitiveOrString
          simpleTypeName := some name
          facets := d.facets.orElse chain.facets }, findings)
    else ({ d with resolvedType := some .string }, [undeclaredAttributeType owner key name])

/-- Gives the attributes of a node their types. -/
def resolveAttributes (m : Model) (id : NodeId) : Resolved :=
  let n := m.node id
  let resolved := n.attributes.entries.map fun entry =>
    (entry.1, resolveAttribute m n.name entry.1 entry.2)
  ⟨m.modifyNode id fun n => { n with attributes := ⟨resolved.map fun r => (r.1, r.2.1)⟩ },
    resolved.flatMap (·.2.2)⟩

/-- Gives a node and its attributes their types. -/
def resolveDeclaration (m : Model) (id : NodeId) : Resolved :=
  let n := m.node id
  let (resolution, findings) := resolveNode m n
  let collapseFromBase := (n.base.bind m.simpleType?).any (·.collapseWhiteSpace)
  Resolved.andThen ⟨m.modifyNode id (applyResolution resolution collapseFromBase), findings⟩
    (resolveAttributes · id)

/-- Gives every declaration its type. -/
def resolveTypes (m : Model) : Resolved :=
  .forEach m m.declarations resolveDeclaration

end SchemaBinding
