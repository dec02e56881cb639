import SchemaBinding.Schema.Builder.Nodes
import SchemaBinding.Schema.Builder.Types

/-!
# `SchemaBinding.Schema.Builder.Feed`: taking in events

Each event changes the builder or ends the reading with an error. After the last event the model is
complete if the root was seen and every tag is closed.
-/

set_option autoImplicit false

namespace SchemaBinding.Builder

/-- The prefix of the schema namespace: the caller's, else the first one that the root binds, else none
when the root's own name has none. -/
def detectPrefix (b : Builder) (rootName : String) (attributes : Attributes) : String :=
  let bound (pair : String × String) : Option String :=
    let mark := "xmlns:".toList
    if mark.isPrefixOf pair.1.toList && pair.2 = schemaNamespace then
      some (String.ofList (pair.1.toList.drop mark.length))
    else none
  match b.prefixOverride, attributes.pairs.findSome? bound with
  | some given, _ => given
  | none, some declared => declared
  | none, none => if rootName.toList.contains ':' then Builtins.defaultPrefix else ""

/-- Opens the root tag. -/
def startRoot (b : Builder) (name : String) (attributes : Attributes) : Except SchemaError Builder :=
  if localPart name = "schema" then
    let builtins := Builtins.ofPrefix (b.detectPrefix name attributes)
    let model : Model :=
      { b.model with builtins := builtins, targetNamespace := attributes.get? "targetNamespace" }
    .ok
      { b with
        model := model
        seenRoot := true
        frames := .node Model.root :: b.frames
        openTags := ⟨name, .closeSchema⟩ :: b.openTags }
  else .error .missingSchemaRoot

/-- Takes in a start tag below the root, and says what closing it has to do. -/
def startConstruct (b : Builder) (tag : Tag) (name : String) (attributes : Attributes) :
    Except SchemaError (Builder × Closing) :=
  match tag with
  | .schema => .error (.malformedNesting name .nestedSchema)
  | .element => b.startNode .element name attributes
  | .complexType =>
    if b.atTopLevel then b.startNode .complexType name attributes
    -- Below the top level the enclosing node stands for the type.
    else .ok (b.lendComplexType attributes, .nothing)
  | .any => b.startWildcard name attributes
  | .group => b.startGroup name attributes
  | .sequence | .all | .complexContent | .other => .ok (b, .nothing)
  | .choice =>
    let choice : OpenChoice :=
      ⟨b.frames.length, attributes.get? "minOccurs", attributes.get? "maxOccurs"⟩
    .ok ({ b with choices := choice :: b.choices }, .closeChoice)
  | .attribute => b.startAttribute name attributes
  | .attributeGroup => b.startAttributeGroup name attributes
  | .anyAttribute => .ok (b.modifyCurrent fun n => { n with anyAttribute := true }, .nothing)
  | .simpleContent =>
    let marked := b.modifyCurrent fun n => { n with hasSimpleContent := true }
    .ok ({ marked with simpleContentDepth := b.simpleContentDepth + 1 }, .leaveSimpleContent)
  | .extension => .ok (b.startExtension attributes, .nothing)
  | .simpleType => b.startSimpleType name attributes
  | .restriction =>
    let restricted := b.startRestriction attributes
    .ok ({ restricted with restrictionDepth := b.restrictionDepth + 1 }, .leaveRestriction)
  | .enumeration | .minInclusive | .maxInclusive | .whiteSpace =>
    (b.startFacet tag name attributes).map (·, .nothing)
  | .union => .ok (b.startUnion attributes, .nothing)
  | .list => .ok (b.startList attributes, .nothing)
  | .annotated => .ok ({ b with annotationDepth := b.annotationDepth + 1 }, .leaveAnnotated)
  | .documentation =>
    -- Documentation outside of an annotation is passed over like an unknown tag.
    if 0 < b.annotationDepth then
      .ok ({ b with documentationDepth := b.documentationDepth + 1 }, .leaveDocumentation)
    else .ok (b, .nothing)

/-- Takes in a start tag. -/
def startTag (b : Builder) (name : String) (attributes : Attributes) : Except SchemaError Builder :=
  if !b.seenRoot then b.startRoot name attributes
  else if b.closedRoot then .error (.malformedNesting name .afterRoot)
  else
    (b.startConstruct (b.builtins.tag name) name attributes).map fun (after, closing) =>
      { after with openTags := ⟨name, closing⟩ :: after.openTags }

/-- Takes in text, which counts inside of documentation only. -/
def text (b : Builder) (content : String) : Builder :=
  if b.documentationDepth = 0 || 0 < b.attributeDepth then b
  else
    match b.frames with
    | .simpleType d :: _ =>
      b.setTopFrame (.simpleType { d with documentation := d.documentation ++ content })
    | _ => b.modifyCurrent fun n => { n with documentation := n.documentation ++ content }

/-- Closes the frame of a node. -/
def popNode (b : Builder) (tag : String) : Except SchemaError (Builder × NodeId) :=
  match b.frames with
  | .node id :: rest => .ok ({ b with frames := rest }, id)
  | _ => .error (.malformedNesting tag .unbalancedConstruct)

/-- Registers a finished simple type. -/
def defineSimpleType (b : Builder) (d : SimpleTypeDef) : Builder :=
  b.modifyModel (·.modifySymbols fun s =>
    let listed := if b.atTopLevel then s.topLevelSimpleTypes ++ [d.name] else s.topLevelSimpleTypes
    { s with topLevelSimpleTypes := listed }.registerSimpleType d)

/-- Does what closing a tag has to do. -/
def close (b : Builder) (name : String) : Closing → Except SchemaError Builder
  | .nothing => .ok b
  | .closeSchema => .ok { b with frames := b.frames.tail, closedRoot := true }
  | .popNode => (b.popNode name).map fun (popped, id) => popped.attach id
  | .popGroup role =>
    (b.popNode name).map fun (popped, id) =>
      match role with
      | .definition =>
        popped.modifyModel fun m => m.modifySymbols fun s =>
          { s with elementGroups := s.elementGroups.insert (m.node id).name id }
      | .reference => popped.attach id
      | .ignored => popped
  | .popSimpleType =>
    match b.frames with
    | .simpleType d :: rest => .ok ({ b with frames := rest }.defineSimpleType d)
    | _ => .error (.malformedNesting name .unbalancedConstruct)
  | .popAttributeGroup =>
    match b.frames with
    | .attributeGroup d :: rest =>
      .ok ({ b with frames := rest }.modifyModel (·.modifySymbols fun s =>
        { s with attributeGroups := s.attributeGroups.insert d.name d }))
    | _ => .error (.malformedNesting name .unbalancedConstruct)
  | .closeChoice => .ok { b with choices := b.choices.tail }
  | .leaveAttribute =>
    -- Only the outermost attribute gives the slot free.
    let depth := b.attributeDepth - 1
    .ok { b with attributeDepth := depth, slot := if depth = 0 then none else b.slot }
  | .leaveRestriction => .ok { b with restrictionDepth := b.restrictionDepth - 1 }
  | .leaveSimpleContent => .ok { b with simpleContentDepth := b.simpleContentDepth - 1 }
  | .leaveAnnotated => .ok { b with annotationDepth := b.annotationDepth - 1 }
  | .leaveDocumentation => .ok { b with documentationDepth := b.documentationDepth - 1 }

/-- Takes in an end tag, which has to close the innermost open tag. -/
def endTag (b : Builder) (name : String) : Except SchemaError Builder :=
  match b.openTags with
  | [] => .error (.unexpectedEnd name)
  | tag :: rest =>
    if tag.name = name then { b with openTags := rest }.close name tag.closing
    else .error (.unbalancedEnd tag.name name)

/-- Takes in one event. -/
def feed (b : Builder) : Event → Except SchemaError Builder
  | .startTag name attributes => b.startTag name attributes
  | .text content => .ok (b.text content)
  | .endTag name => b.endTag name

/-- Takes in several events, up to the first error. -/
def feedAll (b : Builder) (events : List Event) : Except SchemaError Builder :=
  events.foldlM feed b

/-- The model, once every event is taken in. -/
def finish (b : Builder) : Except SchemaError Model :=
  if !b.seenRoot then .error .missingSchemaRoot
  else if b.openTags.isEmpty then .ok b.model
  else .error (.unclosed b.openTags.length)

end SchemaBinding.Builder

namespace SchemaBinding

/-- The model of a list of events. -/
def Model.ofEvents (prefixOverride : Option String) (events : List Event) : Except SchemaError Model :=
  ((Builder.start prefixOverride).feedAll events).bind (·.finish)

end SchemaBinding
