import SchemaBinding.Proofs.Builder.Step
import SchemaBinding.Schema.Source

/-!
# `SchemaBinding.Proofs.Builder.Built`: models that were read

A model is built when it is read from some events (`Model.IsBuilt`), as the models of documents are
(`Model.isBuilt_of_ofSource`). It is then the model of a builder that has closed every tag
(`Model.IsBuilt.exists_reads`).

Reading adds nodes at the end and fills in the nodes that are there, so of every node besides the root we know what
start tags see to when they add one (`Model.IsBuilt.isNew`). The root is the one node of its kind, and a reference to a
group names its group (`Model.IsBuilt.kind_root`, `Model.IsBuilt.groupRef_eq`).
-/

set_option autoImplicit false

namespace SchemaBinding

/-! ### Nodes that are added -/

namespace Outline

/-- The nodes of an outline are the root and nodes that start tags have added. -/
structure Populated (o : Outline) : Prop where
  root : 0 < o.size ∧ o.bare Model.root = (Node.ofKind .schema "schema").bare
  isNew : ∀ id : NodeId, id.index < o.size → id ≠ Model.root → (o.bare id).IsNew
  /-- Elements are registered later, when names are resolved. -/
  elements : o.elements = ∅

namespace Populated

variable {o o' : Outline}

theorem of_eq (h : o.Populated) (hsize : o'.size = o.size) (hbare : o'.bare = o.bare)
    (helements : o'.elements = o.elements) : o'.Populated where
  root := by rw [hsize, hbare]; exact h.root
  isNew := by rw [hsize, hbare]; exact h.isNew
  elements := helements.trans h.elements

theorem pushNode (h : o.Populated) {n : Node} (hnew : n.IsNew) : { o with toTree := o.pushNode n }.Populated := by
  have hplace : ∀ id : NodeId, (o.pushNode n).bare id = if id = ⟨o.size⟩ then n.bare else o.bare id := fun _ => rfl
  refine ⟨⟨Nat.succ_pos _, ?_⟩, fun id hid hroot => ?_, h.elements⟩
  · have hroot : Model.root ≠ ⟨o.size⟩ := fun heq =>
      Nat.ne_of_lt h.root.1 (congrArg NodeId.index heq)
    rw [hplace, if_neg hroot]
    exact h.root.2
  · rw [hplace]
    by_cases heq : id = ⟨o.size⟩
    · rw [if_pos heq]
      exact ⟨hnew.kind, hnew.groupRef, hnew.isExplicitlyDefined, hnew.isTopLevel, hnew.unresolved⟩
    · rw [if_neg heq]
      have hne : id.index ≠ o.size := fun hindex => heq (congrArg NodeId.mk hindex)
      exact h.isNew id (Nat.lt_of_le_of_ne (Nat.le_of_lt_succ hid) hne) hroot

theorem opens (h : o.Populated) {tag : Tag} {attributes : Attributes} {closing : Closing}
    (hopens : o.Opens tag attributes closing o') : o'.Populated := by
  cases hopens with
  | skip => exact h
  | node _ _ hnew _ => exact h.pushNode hnew
  | simpleType | attributeGroup | choice | enter => exact h.of_eq rfl rfl rfl

theorem closes (h : o.Populated) {closing : Closing} (hcloses : o.Closes closing o') : o'.Populated := by
  cases hcloses with
  | nothing => exact h
  | node | reference => exact h.of_eq (Tree.size_attach _ _) (Tree.bare_attach _ _) rfl
  | root | definition | ignored | simpleType | attributeGroup | choice | leave => exact h.of_eq rfl rfl rfl

theorem next (h : o.Populated) {e : Event} (hnext : o.Next e o') : o'.Populated := by
  cases hnext with
  | text => exact h
  | root => exact h.of_eq rfl rfl rfl
  | start _ _ hopens => exact (h.opens hopens).of_eq rfl rfl rfl
  | close _ hcloses =>
      refine closes ?_ hcloses
      exact h.of_eq rfl rfl rfl

end Populated

theorem Reads.populated {events : List Event} {o : Outline} (h : Reads events o) : o.Populated := by
  induction h with
  | start =>
      refine ⟨⟨by decide, rfl⟩, fun id hid hroot => absurd ?_ hroot, rfl⟩
      exact congrArg NodeId.mk (Nat.lt_one_iff.mp hid)
  | next _ hnext ih => exact ih.next hnext

end Outline

/-! ### Built models -/

theorem Builder.eq_of_finish {b : Builder} {m : Model} (h : b.finish = .ok m) :
    b.model = m ∧ b.seenRoot = true ∧ b.openTags = [] := by
  unfold finish at h
  split at h
  · cases h
  · rename_i hseen
    split at h
    · rename_i htags
      cases h
      exact ⟨rfl, by simpa using hseen, List.isEmpty_iff.mp htags⟩
    · cases h

namespace Model

/-- A model that was read from events. -/
def IsBuilt (m : Model) : Prop :=
  ∃ prefixOverride events, ofEvents prefixOverride events = .ok m

theorem isBuilt_of_ofSource {prefixOverride : Option String} {source : String} {m : Model}
    (h : ofSource prefixOverride source = .ok m) : m.IsBuilt := by
  unfold ofSource at h
  generalize Markup.events source = read at h
  obtain ⟨events, fault⟩ := read
  refine ⟨prefixOverride, events, ?_⟩
  cases fault with
  | none => exact h
  | some fault =>
      obtain ⟨b, -, hfault⟩ := exists_of_bind_eq_ok h
      cases hfault

theorem exists_of_ofEvents {prefixOverride : Option String} {events : List Event} {m : Model}
    (h : ofEvents prefixOverride events = .ok m) :
    ∃ b : Builder, (Builder.start prefixOverride).feedAll events = .ok b ∧ b.finish = .ok m :=
  exists_of_bind_eq_ok h

theorem ofEvents_of_toOption_eq {prefixOverride : Option String} {events : List Event} {m : Model}
    (h : (ofEvents prefixOverride events).toOption = some m) : ofEvents prefixOverride events = .ok m :=
  eq_ok_of_toOption_eq_some h

theorem isBuilt_of_toOption_eq {prefixOverride : Option String} {events : List Event} {m : Model}
    (h : (ofEvents prefixOverride events).toOption = some m) : m.IsBuilt :=
  ⟨prefixOverride, events, ofEvents_of_toOption_eq h⟩

/-- A built model is that of a builder that has seen the root and closed every tag. -/
theorem IsBuilt.exists_reads {m : Model} (h : m.IsBuilt) :
    ∃ (events : List Event) (b : Builder), Outline.Reads events b.outline ∧ b.model = m ∧ b.seenRoot = true ∧
      b.openTags = [] := by
  obtain ⟨prefixOverride, events, hread⟩ := h
  obtain ⟨b, hfeed, hfinish⟩ := exists_of_ofEvents hread
  exact ⟨events, b, Builder.reads_of_feedAll hfeed, Builder.eq_of_finish hfinish⟩

theorem IsBuilt.populated {m : Model} (h : m.IsBuilt) :
    (0 < m.nodes.size ∧ (m.node root).bare = (Node.ofKind .schema "schema").bare) ∧
      (∀ id, m.Holds id → id ≠ root → (m.node id).bare.IsNew) ∧ m.symbols.elements = ∅ := by
  obtain ⟨events, b, hreads, rfl, -, -⟩ := h.exists_reads
  exact ⟨hreads.populated.root, hreads.populated.isNew, hreads.populated.elements⟩

/-- What start tags see to when they add a node is still so in the built model. -/
theorem IsBuilt.isNew {m : Model} (h : m.IsBuilt) {id : NodeId} (hheld : m.Holds id) (hroot : id ≠ root) :
    (m.node id).IsNew :=
  have hbare := h.populated.2.1 id hheld hroot
  ⟨hbare.kind, hbare.groupRef, hbare.isExplicitlyDefined, hbare.isTopLevel, hbare.unresolved⟩

/-- What has content of its own was added by a start tag. Neither a place without a node nor the root has any. -/
theorem IsBuilt.isNew_of_isExplicitlyDefined {m : Model} (h : m.IsBuilt) {id : NodeId}
    (hexplicit : (m.node id).isExplicitlyDefined = true) : m.Holds id ∧ id ≠ root ∧ (m.node id).IsNew := by
  have hheld : m.Holds id := by
    refine Decidable.byContradiction fun hnone => ?_
    rw [node_of_not_holds hnone] at hexplicit
    cases hexplicit
  have hroot : id ≠ root := by
    rintro rfl
    have hnone := congrArg Node.isExplicitlyDefined h.populated.1.2
    cases hexplicit.symm.trans hnone
  exact ⟨hheld, hroot, h.isNew hheld hroot⟩

theorem IsBuilt.kind_root {m : Model} (h : m.IsBuilt) : (m.node root).kind = .schema :=
  congrArg Node.kind h.populated.1.2

/-- Nothing is known yet of the type of a node, nor of what extends it. -/
theorem IsBuilt.unresolved {m : Model} (h : m.IsBuilt) (id : NodeId) :
    (m.node id).resolvedType = none ∧ (m.node id).isComplex = false ∧ (m.node id).isExtended = false := by
  by_cases hheld : m.Holds id
  · by_cases hroot : id = root
    · have hbare := h.populated.1.2
      rw [hroot]
      exact ⟨congrArg Node.resolvedType hbare, congrArg Node.isComplex hbare, congrArg Node.isExtended hbare⟩
    · exact (h.isNew hheld hroot).unresolved
  · rw [node_of_not_holds hheld]
    exact ⟨rfl, rfl, rfl⟩

/-- A reference to a group goes by the name of that group. -/
theorem IsBuilt.groupRef_eq {m : Model} (h : m.IsBuilt) {id : NodeId} (hkind : (m.node id).kind = .groupRef) :
    (m.node id).groupRef = some (m.node id).name := by
  have hroot : id ≠ root := by
    rintro rfl
    cases hkind.symm.trans h.kind_root
  by_cases hheld : m.Holds id
  · exact (h.isNew hheld hroot).groupRef hkind
  · rw [node_of_not_holds hheld] at hkind
    cases hkind

end Model

/-! ### Small documents -/

/-- The events of a tag with some others inside of it. -/
def enclosed (name : String) (attributes : List (String × String)) (inner : List Event) : List Event :=
  .startTag name ⟨attributes⟩ :: inner ++ [.endTag name]

/-- The node of a tag that says no more than a name. -/
def taggedNode (kind : NodeKind) (name : String) (isTopLevel : Bool) (children : List NodeId) : Node :=
  { Node.ofKind kind name with
    children := children
    groupRef := if kind = .groupRef then some name else none
    isExplicitlyDefined := kind = .element || kind = .complexType
    isTopLevel := isTopLevel }

end SchemaBinding
