import SchemaBinding.Schema.Error
import SchemaBinding.Schema.Event
import SchemaBinding.Schema.Model

/-!
# `SchemaBinding.Schema.Builder`: a schema that is being read

A builder takes the events of a document one by one. It keeps the open tags, each with what closing it has
to do, and a stack of frames: the declarations whose content is being read. Wrappers such as
`sequence` open no frame, so the content of a wrapper goes to the declaration around it.

Both stacks have the innermost entry first.
-/

set_option autoImplicit false

namespace SchemaBinding

/-- A declaration whose content is being read. Nodes are in the model already. -/
inductive Frame where
  | node (id : NodeId)
  | simpleType (d : SimpleTypeDef)
  | attributeGroup (d : AttributeGroupDef)
  deriving Repr, DecidableEq, Inhabited

/-- What a `group` tag is: a definition, a reference, or neither. -/
inductive GroupRole where
  | definition
  | reference
  | ignored
  deriving Repr, DecidableEq, Inhabited

/-- What closing a tag has to do. -/
inductive Closing where
  | nothing
  | closeSchema
  | popNode
  | popGroup (role : GroupRole)
  | popSimpleType
  | popAttributeGroup
  | closeChoice
  | leaveAttribute
  | leaveRestriction
  | leaveSimpleContent
  | leaveAnnotated
  | leaveDocumentation
  deriving Repr, DecidableEq, Inhabited

/-- A tag that has been opened and not closed. -/
structure OpenTag where
  name : String
  closing : Closing
  deriving Repr, DecidableEq, Inhabited

/-- The occurrence bounds of an open `choice`, with the number of frames around it. -/
structure OpenChoice where
  depth : Nat
  minimum : Option String
  maximum : Option String
  deriving Repr, DecidableEq, Inhabited

/-- Where the attribute that is being read is stored: the frame, counted from the outermost, and the key. -/
structure AttributeSlot where
  frame : Nat
  key : String
  deriving Repr, DecidableEq, Inhabited

/-- A schema that is being read. -/
structure Builder where
  /-- The prefix of the schema namespace, when the caller gives one. -/
  prefixOverride : Option String := none
  model : Model := .empty
  frames : List Frame := []
  openTags : List OpenTag := []
  choices : List OpenChoice := []
  slot : Option AttributeSlot := none
  /-- The open `attribute` tags; the other depths count tags in the same way. -/
  attributeDepth : Nat := 0
  restrictionDepth : Nat := 0
  simpleContentDepth : Nat := 0
  annotationDepth : Nat := 0
  documentationDepth : Nat := 0
  seenRoot : Bool := false
  closedRoot : Bool := false
  deriving Repr, DecidableEq, Inhabited

/-- A builder before the first event. -/
def Builder.start (prefixOverride : Option String) : Builder :=
  { prefixOverride := prefixOverride }

namespace Builder

def builtins (b : Builder) : Builtins := b.model.builtins

def modifyModel (b : Builder) (f : Model → Model) : Builder :=
  { b with model := f b.model }

def modifyNode (b : Builder) (id : NodeId) (f : Node → Node) : Builder :=
  b.modifyModel (·.modifyNode id f)

/-- Whether the next declaration stands directly below the root. -/
def atTopLevel (b : Builder) : Bool := b.frames.length == 1

/-- The node whose content is being read, unless it is the schema root. -/
def currentNode? (b : Builder) : Option NodeId :=
  match b.frames with
  | .node id :: _ => if id = Model.root then none else some id
  | _ => none

/-- Changes the node whose content is being read, if there is one besides the root. -/
def modifyCurrent (b : Builder) (f : Node → Node) : Builder :=
  match b.currentNode? with
  | some id => b.modifyNode id f
  | none => b

/-- Opens a frame for a declaration. -/
def pushFrame (b : Builder) (frame : Frame) : Builder :=
  { b with frames := frame :: b.frames }

/-- Changes the declaration on top of the stack. -/
def setTopFrame (b : Builder) (frame : Frame) : Builder :=
  { b with frames := frame :: b.frames.tail }

/-- Adds a node and opens a frame for it. -/
def pushNode (b : Builder) (n : Node) : Builder :=
  (b.modifyModel (·.addNode n)).pushFrame (.node b.model.nextId)

/-- Hangs a finished node below the node on top of the stack, if there is one. -/
def attach (b : Builder) (id : NodeId) : Builder :=
  match b.frames with
  | .node parent :: _ => b.modifyNode parent fun n => { n with children := n.children ++ [id] }
  | _ => b

/-- Changes the attribute that is being read. There is no result when it cannot be found. -/
def modifyAttribute? (b : Builder) (f : AttributeDef → AttributeDef) : Option Builder :=
  match b.slot with
  | none => none
  | some slot =>
    if b.frames.length ≤ slot.frame then none
    else
      let place := b.frames.length - 1 - slot.frame
      match b.frames[place]? with
      | some (.node id) =>
        if (b.model.node id).attributes.contains slot.key then
          some (b.modifyNode id fun n => { n with attributes := n.attributes.modify slot.key f })
        else none
      | some (.attributeGroup d) =>
        if d.attributes.contains slot.key then
          let changed : AttributeGroupDef := { d with attributes := d.attributes.modify slot.key f }
          some { b with frames := b.frames.set place (.attributeGroup changed) }
        else none
      | _ => none

/-- The name of a declared type as nodes store it: a built-in type keeps its prefix, others lose it. -/
def typeName (b : Builder) (raw : String) : String :=
  let name := PrefixedName.ofString raw
  if !b.builtins.nsPrefix.isEmpty && name.nsPrefix = b.builtins.nsPrefix then raw else name.localPart

/-- How often a particle occurs: as its own attributes say, else as the `choice` directly around it says,
else once. -/
def occurs (b : Builder) (tag : String) (attributes : Attributes) :
    Except SchemaError (Nat × MaxOccurs) := do
  let choice := b.choices.head?.filter (·.depth = b.frames.length)
  let minimum := (attributes.get? "minOccurs").or (choice.bind (·.minimum))
  let maximum := (attributes.get? "maxOccurs").or (choice.bind (·.maximum))
  let least ← match minimum with
    | none => .ok 1
    | some value =>
      match readWhole? (Nat.pow 2 32) (Text.trimmed value.toList) with
      | some n => .ok n
      | none => .error (.invalidOccurs tag "minOccurs" value)
  let most ← match maximum.map Text.trim with
    | none => .ok (.count 1)
    | some "unbounded" => .ok .unbounded
    | some value =>
      match readWhole? (Nat.pow 2 32) value.toList with
      | some n => .ok (.count n)
      | none => .error (.invalidOccurs tag "maxOccurs" value)
  return (least, most)

end Builder

end SchemaBinding
