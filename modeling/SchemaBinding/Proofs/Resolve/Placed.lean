import SchemaBinding.Proofs.Builder.Forest
import SchemaBinding.Proofs.Groups.Plain
import SchemaBinding.Proofs.Resolve.Registered

/-!
# `SchemaBinding.Proofs.Resolve.Placed`: the top level of a resolved model

What is marked as standing at the top level is a child of the root and of no other node. This holds of what was read, by
the shape of a forest. When references to groups are replaced, a node gets to be the child of further nodes, but only
if it stands in the definition of a group, and what stands there is not marked (`Model.IsBuilt.eq_root_of_child`).

So an emittable declaration of a resolved model with this mark is found at its top level
(`Model.IsResolved.mem_topLevel`).
-/

set_option autoImplicit false

namespace SchemaBinding

/-- A child besides references was one before references were replaced, or it stands in the definition of a group. -/
theorem Flattened.exists_child {m : Model} {r : Resolved} {notes strays : List GroupNote} {known : Table (List NodeId)}
    (h : Flattened m r notes known strays) {id child : NodeId} (hreaches : r.model.Reaches Model.root id)
    (hchild : child ∈ r.model.children id) (hnone : (m.node child).referencedGroup? = none) :
    child ∈ m.children id ∨
      ∃ name definition, m.symbols.elementGroups.get? name = some definition ∧ child ∈ m.children definition := by
  rw [h.children id hreaches] at hchild
  obtain ⟨origin, horigin, hchild⟩ := List.mem_flatMap.mp hchild
  cases hname : (m.node origin).referencedGroup? with
  | none =>
      rw [contentOf_of_none hname, List.mem_singleton] at hchild
      exact Or.inl (hchild ▸ horigin)
  | some name =>
      rw [contentOf_of_some hname] at hchild
      cases hparticles : known.get? name with
      | none =>
          -- A reference that is left stays where it is.
          rw [hparticles, Option.getD_none, List.mem_singleton] at hchild
          exact Or.inl (hchild ▸ horigin)
      | some particles =>
          rw [hparticles, Option.getD_some] at hchild
          obtain ⟨x, definition, -, hdefinition, hoffered⟩ := h.opening.offered name particles hparticles child hchild hnone
          exact Or.inr ⟨x, definition, hdefinition, hoffered⟩

namespace Model

/-- What is marked as standing at the top level is a child of the root alone. -/
theorem IsBuilt.eq_root_of_child {m : Model} (h : m.IsBuilt) {id child : NodeId}
    (hreaches : (Stage.flat m).Reaches root id) (hchild : child ∈ (Stage.flat m).children id)
    (hnone : (m.node child).referencedGroup? = none) (htop : (m.node child).isTopLevel = true) : id = root := by
  obtain ⟨frames, hforest⟩ := h.forest
  obtain ⟨notes, known, strays, hflat⟩ := exists_flattened m
  rcases hflat.exists_child hreaches hchild hnone with hchild | ⟨name, definition, hdefinition, hchild⟩
  · exact hforest.topLevel id child hchild htop
  · -- The definition of a group is not the root.
    have hroot : definition = root := hforest.topLevel definition child hchild htop
    have hgroup : (m.node definition).kind = .group :=
      (hforest.groups _ (Table.mem_entries_of_get?_eq hdefinition)).2.1
    rw [hroot, h.kind_root] at hgroup
    cases hgroup

namespace IsResolved

variable {names : NameTable} {r : Model} {id child : NodeId}

/-- The same for the emittable declarations of a resolved model. -/
theorem eq_root_of_child (h : r.IsResolved names) (hreaches : r.Reaches root id) (hchild : child ∈ r.children id)
    (he : (r.node child).isEmittable = true) (htop : (r.node child).isTopLevel = true) : id = root := by
  have hkind := (h.written_of_isExplicitlyDefined (Node.isEmittable_iff.mp he).1).2.2.1
  obtain ⟨m, hbuilt, rfl⟩ := h
  have htree : ∀ id, (resolve names m).model.children id = (Stage.flat m).children id := fun id =>
    ((keeps_tree names m).of_view Prod.snd).node id
  have hwritten := (keeps_written names m).node child
  have hsame := congrArg Node.kind hwritten
  have hmark := congrArg Node.isTopLevel hwritten
  have hkind : (m.node child).kind = .element ∨ (m.node child).kind = .complexType :=
    hkind.imp hsame.symm.trans hsame.symm.trans
  have hnone : (m.node child).referencedGroup? = none := by
    rcases hkind with hkind | hkind <;> simp [Node.referencedGroup?, hkind]
  have hflat : (Stage.flat m).Reaches root id := by simpa only [Reaches, htree] using hreaches
  exact hbuilt.eq_root_of_child hflat (htree id ▸ hchild) hnone (hmark.symm.trans htop)

/-- An emittable declaration that is marked as standing at the top level does so. -/
theorem mem_topLevel (h : r.IsResolved names) (hid : id ∈ r.declarations) (he : (r.node id).isEmittable = true)
    (htop : (r.node id).isTopLevel = true) : id ∈ r.topLevel := by
  rcases Relation.ReflTransGen.cases_tail (mem_declarations_iff.mp hid).1 with hroot | ⟨owner, howner, hchild⟩
  · exact absurd hroot (h.written_of_isExplicitlyDefined (Node.isEmittable_iff.mp he).1).2.1
  · rw [topLevel, ← h.eq_root_of_child howner hchild he htop]
    exact hchild

end IsResolved

end Model

end SchemaBinding
