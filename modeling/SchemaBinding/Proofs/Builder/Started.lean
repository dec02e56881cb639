import SchemaBinding.Proofs.Builder.Runs

/-!
# `SchemaBinding.Proofs.Builder.Started`: what start tags settle for good

A start tag below the root is read by what came before it, with the prefix that the document keeps to its end
(`Builder.exists_started`). Where it adds a node, later tags fill this node in, but what the start tag has settled stays as
it is (`Builder.Started.bare_pushNode`). So the kind, the type name and the bounds of a node can be read off its start tag.
-/

set_option autoImplicit false

namespace SchemaBinding

/-- What is settled when the start tag of a node is read stays the same. -/
theorem Outline.Next.size_bare {o o' : Outline} {e : Event} (h : o.Next e o') :
    o.size ≤ o'.size ∧ ∀ id : NodeId, id.index < o.size → o'.bare id = o.bare id := by
  cases h with
  | text | root => exact ⟨Nat.le_refl _, fun _ _ => rfl⟩
  | start _ _ hopens => exact hopens.size_bare
  | close _ hcloses =>
      obtain ⟨hsize, hbare⟩ := hcloses.size_bare
      exact ⟨Nat.le_of_eq hsize.symm, fun id _ => congrFun hbare id⟩

namespace Builder

variable {prefixOverride : Option String} {before after events : List Event} {name : String} {attributes : Attributes}
  {b b' opened last : Builder} {closing : Closing} {n : Node}

theorem bare_of_feedAll (h : b.feedAll events = .ok b') : b.outline.size ≤ b'.outline.size ∧
    ∀ id : NodeId, id.index < b.outline.size → b'.outline.bare id = b.outline.bare id := by
  induction events generalizing b with
  | nil =>
      cases h
      exact ⟨Nat.le_refl _, fun _ _ => rfl⟩
  | cons e rest ih =>
      obtain ⟨next, hfirst, hrest⟩ := exists_of_feedAll_cons h
      obtain ⟨hsize, hbare⟩ := (next_of_feed hfirst).size_bare
      obtain ⟨hsize', hbare'⟩ := ih hrest
      refine ⟨Nat.le_trans hsize hsize', fun id hid => ?_⟩
      rw [hbare' id (Nat.lt_of_lt_of_le hid hsize), hbare id hid]

theorem exists_of_startNode {kind : NodeKind} {tag : String} (h : b.startNode kind tag attributes = .ok (b', closing)) :
    ∃ bounds, b.occurs tag attributes = .ok bounds ∧
      b' = (b.noteSubstitution attributes).pushNode (withOccurs bounds (b.declaredNode kind attributes)) ∧
      closing = .popNode := by
  unfold startNode at h
  dsimp only at h
  split at h
  · cases h
  · obtain ⟨bounds, hbounds, h⟩ := exists_of_bind_eq_ok h
    cases h
    exact ⟨bounds, hbounds, rfl, rfl⟩

/-- A start tag below the root has been read, and what came after it, up to `last`. -/
structure Started (b : Builder) (name : String) (attributes : Attributes) (opened : Builder) (closing : Closing)
    (last : Builder) : Prop where
  builtins : last.builtins = b.builtins
  start : b.startConstruct (b.builtins.tag name) name attributes = .ok (opened, closing)
  feed : b.feed (.startTag name attributes) = .ok (opened.withOpenTags (⟨name, closing⟩ :: b.openTags))
  size_le : opened.outline.size ≤ last.outline.size
  bare : ∀ id : NodeId, id.index < opened.outline.size → last.outline.bare id = opened.outline.bare id

/-- The tag of a construct that is no schema stands below the root. -/
theorem exists_started (h : (start prefixOverride).feedAll (before ++ .startTag name attributes :: after) = .ok last)
    (hschema : last.builtins.tag name ≠ .schema) (hother : last.builtins.tag name ≠ .other) :
    ∃ b opened closing, (start prefixOverride).feedAll before = .ok b ∧
      b.Started name attributes opened closing last := by
  obtain ⟨b, hbefore, h⟩ := exists_of_feedAll_append h
  obtain ⟨next, hstart, hafter⟩ := exists_of_feedAll_cons h
  have hseen : b.seenRoot = true := seenRoot_of_construct hschema hother hstart
  obtain ⟨hnext, hseen'⟩ := builtins_of_feed hstart hseen
  obtain ⟨hlast, -⟩ := builtins_of_feedAll hafter hseen'
  obtain ⟨opened, closing, hconstruct, rfl⟩ := exists_of_startTag hseen hstart
  obtain ⟨hsize, hbare⟩ := bare_of_feedAll hafter
  exact ⟨b, opened, closing, hbefore, hlast.trans hnext, hconstruct, hstart, hsize, hbare⟩

/-- The node that a start tag has added keeps what the start tag says of it. -/
theorem Started.bare_pushNode (h : b.Started name attributes (b'.pushNode n) closing last)
    (hsame : b'.outline = b.outline) (hchildren : n.children = []) :
    last.model.Holds b.model.nextId ∧ (last.model.node b.model.nextId).bare = n.bare := by
  have houtline : (b'.pushNode n).outline = { b.outline with toTree := b.outline.pushNode n } := by
    rw [outline_pushNode b' hchildren, hsame]
  have hsize : (b'.pushNode n).outline.size = b.outline.size + 1 := congrArg (·.size) houtline
  have hplace : b.model.nextId.index < (b'.pushNode n).outline.size := hsize ▸ Nat.lt_succ_self _
  have hnew : (b'.pushNode n).outline.bare b.model.nextId = n.bare := by
    rw [houtline]
    exact if_pos rfl
  exact ⟨Nat.lt_of_lt_of_le hplace h.size_le, (h.bare _ hplace).trans hnew⟩

end Builder

end SchemaBinding
