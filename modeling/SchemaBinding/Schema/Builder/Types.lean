import SchemaBinding.Schema.Builder

/-!
# `SchemaBinding.Schema.Builder.Types`: start tags that say what values look like

Attributes, attribute groups, simple types, their restrictions and extensions, and facets. Inside an
attribute a simple type opens no frame: what it says goes to the attribute. A simple type inside a
simple type goes to the outer one.
-/

set_option autoImplicit false

namespace SchemaBinding.Builder

/-- The name of an attribute that has neither a name nor a reference. -/
def anonymousAttribute : String := "no_attribute_name"

/-- The attribute that a tag declares. -/
def declaredAttribute (b : Builder) (attributes : Attributes) : AttributeDef :=
  let name := (attributes.get? "name").or ((attributes.get? "ref").map localPart)
  let type := (attributes.get? "type").getD b.builtins.stringType
  { AttributeDef.declared (name.getD anonymousAttribute) type with
    use := if attributes.get? "use" = some "required" then .required else .optional
    default? := attributes.get? "default" }

/-- Opens an attribute of the declaration on top of the stack. -/
def startAttribute (b : Builder) (tag : String) (attributes : Attributes) :
    Except SchemaError (Builder × Closing) := do
  let d := b.declaredAttribute attributes
  let stored ← match b.frames with
    | .node id :: _ =>
      pure (b.modifyNode id fun n => { n with attributes := n.attributes.insert d.name d })
    | .attributeGroup g :: _ =>
      pure (b.setTopFrame (.attributeGroup { g with attributes := g.attributes.insert d.name d }))
    | _ => throw (.malformedNesting tag .strayAttribute)
  let slot : AttributeSlot := ⟨b.frames.length - 1, d.name⟩
  return ({ stored with slot := some slot, attributeDepth := b.attributeDepth + 1 }, .leaveAttribute)

/-- Opens an attribute group, or notes a reference to one. -/
def startAttributeGroup (b : Builder) (tag : String) (attributes : Attributes) :
    Except SchemaError (Builder × Closing) := do
  match attributes.get? "name", (attributes.get? "ref").map localPart with
  | some name, _ => return (b.pushFrame (.attributeGroup { name := localPart name }), .popAttributeGroup)
  | none, none =>
    if b.atTopLevel then throw (.missingAttribute tag "name")
    return (b, .nothing)
  | none, some reference =>
    match b.frames with
    | .attributeGroup g :: _ =>
      return (b.setTopFrame (.attributeGroup { g with groupRefs := g.groupRefs ++ [reference] }), .nothing)
    | _ =>
      let note (n : Node) := { n with attributeGroupRefs := n.attributeGroupRefs ++ [reference] }
      return (b.modifyCurrent note, .nothing)

/-- Adds a built-in base to the current node, or sets the base to a name. -/
def extendCurrent (b : Builder) (base : String) : Builder :=
  if (b.builtins.primitive? base).isSome then
    b.modifyCurrent fun n => { n with simpleBases := n.simpleBases ++ [base] }
  else b.modifyCurrent fun n => { n with base := some (localPart base) }

/-- Takes in an `extension` tag. -/
def startExtension (b : Builder) (attributes : Attributes) : Builder :=
  match attributes.get? "base" with
  | some base => b.extendCurrent base
  | none => b

/-- Opens a simple type. A type without a name takes that of the node around it. -/
def startSimpleType (b : Builder) (tag : String) (attributes : Attributes) :
    Except SchemaError (Builder × Closing) := do
  let insideSimpleType := match b.frames with
    | .simpleType _ :: _ => true
    | _ => false
  let insideAttributeGroup := match b.frames with
    | .attributeGroup _ :: _ => true
    | _ => false
  let owner := b.currentNode?.map fun id => (b.model.node id).name
  if 0 < b.attributeDepth || insideSimpleType then return (b, .nothing)
  match (attributes.get? "name").or owner with
  | some name =>
    let name := cleanup name
    let named := b.modifyCurrent fun n => { n with simpleTypeName := some name }
    return (named.pushFrame (.simpleType { name := name }), .popSimpleType)
  | none =>
    if insideAttributeGroup then return (b, .nothing)
    throw (.missingAttribute tag "name")

/-- Takes in the base of a `restriction` tag. -/
def restrict (b : Builder) (base : String) : Builder :=
  if 0 < b.attributeDepth then
    (b.modifyAttribute? fun d => { d with declaredType := base }).getD b
  else
    match b.frames with
    | .simpleType d :: _ => b.setTopFrame (.simpleType { d with base := some base })
    | _ =>
      if 0 < b.simpleContentDepth then b.extendCurrent base
      else b.modifyCurrent fun n => { n with restrictionBase := some (localPart base) }

/-- Takes in a `restriction` tag. -/
def startRestriction (b : Builder) (attributes : Attributes) : Builder :=
  match attributes.get? "base" with
  | some base => b.restrict base
  | none => b

/-- Takes in the member types of a `union` tag. -/
def startUnion (b : Builder) (attributes : Attributes) : Builder :=
  match b.frames, attributes.get? "memberTypes" with
  | .simpleType d :: _, some members =>
    b.setTopFrame (.simpleType { d with unionMembers := d.unionMembers ++ Text.words members })
  | _, _ => b

/-- Takes in a `list` tag. -/
def startList (b : Builder) (attributes : Attributes) : Builder :=
  match b.frames with
  | .simpleType d :: _ =>
    if b.attributeDepth = 0 then
      b.setTopFrame (.simpleType { d with isList := true, base := (attributes.get? "itemType").or d.base })
    else b
  | _ => b

/-- Takes in a `whiteSpace` tag. -/
def startWhiteSpace (b : Builder) (value : String) : Builder :=
  if 0 < b.restrictionDepth && value = "collapse" then
    match b.frames with
    | .simpleType d :: _ => b.setTopFrame (.simpleType { d with collapseWhiteSpace := true })
    | .node id :: _ => b.modifyNode id fun n => { n with collapseWhiteSpace := true }
    | _ => b
  else b

/-- Changes the facets of what is being read: an attribute, a simple type, or a node besides the root. -/
def modifyFacets? (b : Builder) (f : Facets → Facets) : Option Builder :=
  if 0 < b.attributeDepth then b.modifyAttribute? fun d => { d with facets := f d.facets }
  else
    match b.frames with
    | .simpleType d :: _ => some (b.setTopFrame (.simpleType { d with facets := f d.facets }))
    | _ => b.currentNode?.map fun id => b.modifyNode id fun n => { n with facets := f n.facets }

/-- A facet added to others. -/
def addFacet (tag : Tag) (value : String) (f : Facets) : Facets :=
  match tag with
  | .enumeration => { f with enumeration := f.enumeration ++ [value] }
  | .minInclusive => { f with minimum := some value }
  | .maxInclusive => { f with maximum := some value }
  | _ => f

/-- Takes in a facet. One without a value says nothing. -/
def startFacet (b : Builder) (tag : Tag) (name : String) (attributes : Attributes) :
    Except SchemaError Builder :=
  match attributes.get? "value" with
  | none => .ok b
  | some value =>
    if tag = .whiteSpace then .ok (b.startWhiteSpace value)
    else
      match b.modifyFacets? (addFacet tag value) with
      | some changed => .ok changed
      | none => .error (.malformedNesting name .strayFacet)

end SchemaBinding.Builder
