import SchemaBinding.Proofs.Model
import SchemaBinding.Schema.Builder.Feed

/-!
# `SchemaBinding.Proofs.Builder.Outline`: what an event does to the stacks of a builder

The outline of a builder (`Builder.outline`) keeps its stacks and depths, and of the model the nodes with their
children and the registered groups. It leaves out what tags fill in: the attributes, facets and texts of nodes, and the
content of simple types and attribute groups that are being read.

Few events change an outline, and `Outline.Next` lists what they do. A start tag adds a node, opens another frame,
opens a choice, or makes a depth one greater (`Outline.Opens`), and the end tag undoes that (`Outline.Closes`). What
these steps preserve holds of all outlines that some events lead to (`Outline.Reads`).

The lemmas of this module are about the parts of tags that only fill something in. They leave the outline as it is.
-/

set_option autoImplicit false

namespace SchemaBinding

/-- A node without what later tags fill in. -/
def Node.bare (n : Node) : Node :=
  { n with
    base := none
    restrictionBase := none
    simpleBases := []
    children := []
    attributes := ∅
    attributeGroupRefs := []
    mixed := false
    mixedDeclared := none
    isAbstract := false
    hasSimpleContent := false
    anyAttribute := false
    documentation := ""
    facets := {}
    simpleTypeName := none
    collapseWhiteSpace := false }

/-- What every start tag sees to when it adds a node, and later tags leave as it is. -/
structure Node.IsNew (n : Node) : Prop where
  kind : n.kind ≠ .schema
  /-- A reference to a group goes by the name of that group. -/
  groupRef : n.kind = .groupRef → n.groupRef = some n.name
  /-- Only elements and complex types can have content of their own, and then they name no type. Their own names are
  without a prefix. -/
  isExplicitlyDefined : n.isExplicitlyDefined = true →
    (n.kind = .element ∨ n.kind = .complexType) ∧ n.rawType = "" ∧ localPart n.name = n.name
  /-- A complex type inside of an element adds no node of its own. -/
  isTopLevel : n.kind = .complexType → n.isTopLevel = true
  unresolved : n.resolvedType = none ∧ n.isComplex = false ∧ n.isExtended = false

/-- What is known of a frame from outside. -/
inductive FrameShape where
  | node (id : NodeId)
  | simpleType
  | attributeGroup
  deriving Repr, DecidableEq

def Frame.shape : Frame → FrameShape
  | node id => .node id
  | simpleType _ => .simpleType
  | attributeGroup _ => .attributeGroup

namespace Closing

/-- Whether the closing of a tag takes nodes of this kind off the frames. -/
def takes : Closing → NodeKind → Bool
  | popNode, .element | popNode, .complexType | popNode, .wildcard => true
  | popGroup .reference, .groupRef => true
  | popGroup .definition, .group | popGroup .ignored, .group => true
  | _, _ => false

/-- Whether the closing of a tag makes a depth one less. -/
def isLeave : Closing → Bool
  | leaveAttribute | leaveRestriction | leaveSimpleContent | leaveAnnotated | leaveDocumentation => true
  | _ => false

end Closing

/-- How many tags of a kind are open, by the closing of such a tag. Other tags are not counted. -/
def Builder.depth (b : Builder) : Closing → Nat
  | .leaveAttribute => b.attributeDepth
  | .leaveRestriction => b.restrictionDepth
  | .leaveSimpleContent => b.simpleContentDepth
  | .leaveAnnotated => b.annotationDepth
  | .leaveDocumentation => b.documentationDepth
  | _ => 0

/-- The nodes of a builder and the frames that are open, without what tags fill in. -/
@[ext]
structure Tree where
  size : Nat
  bare : NodeId → Node
  children : NodeId → List NodeId
  groups : Table NodeId
  frames : List FrameShape

/-- A builder without what tags fill in. -/
@[ext]
structure Outline extends Tree where
  elements : Table NodeId
  builtins : Builtins
  openTags : List OpenTag
  choices : List OpenChoice
  depth : Closing → Nat
  seenRoot : Bool
  closedRoot : Bool

def Builder.outline (b : Builder) : Outline where
  size := b.model.nodes.size
  bare id := (b.model.node id).bare
  children := b.model.children
  groups := b.model.symbols.elementGroups
  frames := b.frames.map Frame.shape
  elements := b.model.symbols.elements
  builtins := b.builtins
  openTags := b.openTags
  choices := b.choices
  depth := b.depth
  seenRoot := b.seenRoot
  closedRoot := b.closedRoot

namespace Tree

/-- Opens a frame. -/
def pushFrame (t : Tree) (shape : FrameShape) : Tree := { t with frames := shape :: t.frames }

/-- Adds a node and opens a frame for it. -/
def pushNode (t : Tree) (n : Node) : Tree :=
  { t with
    size := t.size + 1
    bare := fun id => if id = ⟨t.size⟩ then n.bare else t.bare id
    frames := .node ⟨t.size⟩ :: t.frames }

/-- Hangs a finished node below the node on top of the frames, if there is one. -/
def attach (t : Tree) (id : NodeId) : Tree :=
  match t.frames with
  | .node parent :: _ =>
    { t with
      children := fun x => if x = parent ∧ parent.index < t.size then t.children x ++ [id] else t.children x }
  | _ => t

@[simp]
theorem size_attach (t : Tree) (id : NodeId) : (t.attach id).size = t.size := by
  unfold attach
  split <;> rfl

@[simp]
theorem bare_attach (t : Tree) (id : NodeId) : (t.attach id).bare = t.bare := by
  unfold attach
  split <;> rfl

@[simp]
theorem frames_attach (t : Tree) (id : NodeId) : (t.attach id).frames = t.frames := by
  unfold attach
  split <;> rfl

/-- Registers the definition of a group. -/
def define (t : Tree) (id : NodeId) : Tree := { t with groups := t.groups.insert (t.bare id).name id }

end Tree

namespace Outline

/-- Opens a choice. -/
def pushChoice (o : Outline) (attributes : Attributes) : Outline :=
  let choice : OpenChoice := ⟨o.frames.length, attributes.get? "minOccurs", attributes.get? "maxOccurs"⟩
  { o with choices := choice :: o.choices }

/-- Makes the depth of a closing one greater. -/
def enter (o : Outline) (closing : Closing) : Outline :=
  { o with depth := fun c => if c = closing then o.depth c + 1 else o.depth c }

/-- Makes the depth of a closing one less. -/
def leave (o : Outline) (closing : Closing) : Outline :=
  { o with depth := fun c => if c = closing then o.depth c - 1 else o.depth c }

/-- What a start tag below the root can do before it counts as open, with the closing that undoes it. -/
inductive Opens (o : Outline) (tag : Tag) (attributes : Attributes) : Closing → Outline → Prop where
  | skip (htag : tag ≠ .choice) : Opens o tag attributes .nothing o
  | node {closing : Closing} {n : Node} (htag : tag ≠ .choice) (hkind : closing.takes n.kind = true)
      (hnew : n.IsNew) (htop : n.isTopLevel = true → o.frames.length = 1) :
      Opens o tag attributes closing { o with toTree := o.pushNode n }
  | simpleType (htag : tag ≠ .choice) :
      Opens o tag attributes .popSimpleType { o with toTree := o.pushFrame .simpleType }
  | attributeGroup (htag : tag ≠ .choice) :
      Opens o tag attributes .popAttributeGroup { o with toTree := o.pushFrame .attributeGroup }
  | choice (htag : tag = .choice) : Opens o tag attributes .closeChoice (o.pushChoice attributes)
  | enter {closing : Closing} (htag : tag ≠ .choice) (hleave : closing.isLeave = true) :
      Opens o tag attributes closing (o.enter closing)

/-- What an end tag can do, by the closing of the tag that it ends. Where nothing is said of the frames, `rest` are
those below the topmost. -/
inductive Closes (o : Outline) : Closing → Outline → Prop where
  | nothing : Closes o .nothing o
  | root : Closes o .closeSchema { o with frames := o.frames.tail, closedRoot := true }
  | node {id : NodeId} {rest : List FrameShape} (htop : o.frames = .node id :: rest) :
      Closes o .popNode { o with toTree := { o.toTree with frames := rest }.attach id }
  | reference {id : NodeId} {rest : List FrameShape} (htop : o.frames = .node id :: rest) :
      Closes o (.popGroup .reference) { o with toTree := { o.toTree with frames := rest }.attach id }
  | definition {id : NodeId} {rest : List FrameShape} (htop : o.frames = .node id :: rest) :
      Closes o (.popGroup .definition) { o with toTree := { o.toTree with frames := rest }.define id }
  | ignored {id : NodeId} {rest : List FrameShape} (htop : o.frames = .node id :: rest) :
      Closes o (.popGroup .ignored) { o with frames := rest }
  | simpleType {rest : List FrameShape} (htop : o.frames = .simpleType :: rest) :
      Closes o .popSimpleType { o with frames := rest }
  | attributeGroup {rest : List FrameShape} (htop : o.frames = .attributeGroup :: rest) :
      Closes o .popAttributeGroup { o with frames := rest }
  | choice : Closes o .closeChoice { o with choices := o.choices.tail }
  | leave {closing : Closing} (hleave : closing.isLeave = true) : Closes o closing (o.leave closing)

/-- What an event can do. -/
inductive Next (o : Outline) : Event → Outline → Prop where
  | text (content : String) : Next o (.text content) o
  | root {name : String} {attributes : Attributes} (hseen : o.seenRoot = false)
      (hname : localPart name = "schema") (builtins : Builtins) :
      Next o (.startTag name attributes)
        { o with
          toTree := o.pushFrame (.node Model.root)
          builtins := builtins
          openTags := ⟨name, .closeSchema⟩ :: o.openTags
          seenRoot := true }
  | start {name : String} {attributes : Attributes} {closing : Closing} {o' : Outline} (hseen : o.seenRoot = true)
      (hclosed : o.closedRoot = false) (hopens : Opens o (o.builtins.tag name) attributes closing o') :
      Next o (.startTag name attributes) { o' with openTags := ⟨name, closing⟩ :: o'.openTags }
  | close {tag : OpenTag} {rest : List OpenTag} {o' : Outline} (htop : o.openTags = tag :: rest)
      (hcloses : Closes { o with openTags := rest } tag.closing o') : Next o (.endTag tag.name) o'

/-- The outlines after a list of events. -/
inductive Reads : List Event → Outline → Prop where
  | start : Reads [] (Builder.start none).outline
  | next {events : List Event} {e : Event} {o o' : Outline} (hbefore : Reads events o) (hnext : Next o e o') :
      Reads (events ++ [e]) o'

end Outline

theorem map_set_of_eq {α β : Type} {f : α → β} {l : List α} {i : Nat} {old new : α} (hold : l[i]? = some old)
    (h : f new = f old) : (l.set i new).map f = l.map f := by
  refine List.ext_getElem? fun j => ?_
  by_cases hj : i = j
  · subst hj
    obtain ⟨hlt, rfl⟩ := List.getElem?_eq_some_iff.mp hold
    simp [hlt, h]
  · simp [hj]

namespace Builder

variable {b b' : Builder} {closing : Closing}

/-! ### What fills in leaves the outline as it is -/

theorem outline_modifyNode (b : Builder) (id : NodeId) {f : Node → Node} (hbare : ∀ n, (f n).bare = n.bare)
    (hchildren : ∀ n, (f n).children = n.children) : (b.modifyNode id f).outline = b.outline := by
  have hsize : (b.model.modifyNode id f).nodes.size = b.model.nodes.size := by simp [Model.modifyNode]
  exact Outline.ext hsize (funext fun x => Model.congr_modifyNode hbare b.model id x)
    (funext fun x => Model.congr_modifyNode (g := Node.children) hchildren b.model id x)
    rfl rfl rfl rfl rfl rfl rfl rfl rfl

theorem outline_modifyCurrent (b : Builder) {f : Node → Node} (hbare : ∀ n, (f n).bare = n.bare)
    (hchildren : ∀ n, (f n).children = n.children) : (b.modifyCurrent f).outline = b.outline := by
  unfold modifyCurrent
  split
  · exact outline_modifyNode b _ hbare hchildren
  · rfl

theorem outline_setTopFrame {frame old : Frame} {rest : List Frame} (hframes : b.frames = old :: rest)
    (hshape : frame.shape = old.shape) : (b.setTopFrame frame).outline = b.outline := by
  refine Outline.ext rfl rfl rfl rfl ?_ rfl rfl rfl rfl rfl rfl rfl
  simp [setTopFrame, outline, hframes, hshape]

theorem outline_modifyAttribute? {f : AttributeDef → AttributeDef} (h : b.modifyAttribute? f = some b') :
    b'.outline = b.outline := by
  unfold modifyAttribute? at h
  split at h
  · cases h
  · split at h
    · cases h
    · dsimp only at h
      split at h
      · split at h
        · cases h
          exact outline_modifyNode b _ (fun _ => rfl) fun _ => rfl
        · cases h
      · rename_i hplace
        split at h
        · cases h
          refine Outline.ext rfl rfl rfl rfl ?_ rfl rfl rfl rfl rfl rfl rfl
          -- The frame is still one of an attribute group.
          exact map_set_of_eq hplace rfl
        · cases h
      · cases h

theorem outline_noteSubstitution (b : Builder) (attributes : Attributes) :
    (b.noteSubstitution attributes).outline = b.outline := by
  unfold noteSubstitution
  split <;> rfl

theorem bare_withMixed (attributes : Attributes) (n : Node) : (withMixed attributes n).bare = n.bare := by
  unfold withMixed
  split <;> rfl

theorem children_withMixed (attributes : Attributes) (n : Node) :
    (withMixed attributes n).children = n.children := by
  unfold withMixed
  split <;> rfl

theorem outline_lendComplexType (b : Builder) (attributes : Attributes) :
    (b.lendComplexType attributes).outline = b.outline := by
  refine outline_modifyCurrent b (fun n => ?_) fun n => ?_
  · dsimp only
    split <;> exact bare_withMixed attributes n
  · dsimp only
    split <;> exact children_withMixed attributes n

theorem outline_extendCurrent (b : Builder) (base : String) : (b.extendCurrent base).outline = b.outline := by
  unfold extendCurrent
  split <;> exact outline_modifyCurrent b (fun _ => rfl) fun _ => rfl

theorem outline_startExtension (b : Builder) (attributes : Attributes) :
    (b.startExtension attributes).outline = b.outline := by
  unfold startExtension
  split
  · exact outline_extendCurrent b _
  · rfl

theorem outline_restrict (b : Builder) (base : String) : (b.restrict base).outline = b.outline := by
  unfold restrict
  split
  · cases hchanged : b.modifyAttribute? fun d => { d with declaredType := base } with
    | none => rfl
    | some changed => exact outline_modifyAttribute? hchanged
  · split
    · rename_i hframes
      exact outline_setTopFrame hframes rfl
    · split
      · exact outline_extendCurrent b base
      · exact outline_modifyCurrent b (fun _ => rfl) fun _ => rfl

theorem outline_startRestriction (b : Builder) (attributes : Attributes) :
    (b.startRestriction attributes).outline = b.outline := by
  unfold startRestriction
  split
  · exact outline_restrict b _
  · rfl

theorem outline_startUnion (b : Builder) (attributes : Attributes) :
    (b.startUnion attributes).outline = b.outline := by
  unfold startUnion
  split
  · rename_i hframes _
    exact outline_setTopFrame hframes rfl
  · rfl

theorem outline_startList (b : Builder) (attributes : Attributes) :
    (b.startList attributes).outline = b.outline := by
  unfold startList
  split
  · rename_i hframes
    split
    · exact outline_setTopFrame hframes rfl
    · rfl
  · rfl

theorem outline_startWhiteSpace (b : Builder) (value : String) :
    (b.startWhiteSpace value).outline = b.outline := by
  unfold startWhiteSpace
  split
  · split
    · rename_i hframes
      exact outline_setTopFrame hframes rfl
    · exact outline_modifyNode b _ (fun _ => rfl) fun _ => rfl
    · rfl
  · rfl

theorem outline_modifyFacets? {f : Facets → Facets} (h : b.modifyFacets? f = some b') :
    b'.outline = b.outline := by
  unfold modifyFacets? at h
  split at h
  · exact outline_modifyAttribute? h
  · split at h
    · rename_i hframes
      cases h
      exact outline_setTopFrame hframes rfl
    · obtain ⟨id, -, rfl⟩ := Option.map_eq_some_iff.mp h
      exact outline_modifyNode b _ (fun _ => rfl) fun _ => rfl

theorem outline_startFacet {tag : Tag} {name : String} {attributes : Attributes}
    (h : b.startFacet tag name attributes = .ok b') : b'.outline = b.outline := by
  unfold startFacet at h
  split at h
  · cases h
    rfl
  · split at h
    · cases h
      exact outline_startWhiteSpace b _
    · split at h
      · rename_i hchanged
        cases h
        exact outline_modifyFacets? hchanged
      · cases h

theorem outline_text (b : Builder) (content : String) : (b.text content).outline = b.outline := by
  unfold text
  split
  · rfl
  · split
    · rename_i hframes
      exact outline_setTopFrame hframes rfl
    · exact outline_modifyCurrent b (fun _ => rfl) fun _ => rfl

end Builder

end SchemaBinding
