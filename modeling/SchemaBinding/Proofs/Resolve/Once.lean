import SchemaBinding.Proofs.Resolve.Typed

/-!
# `SchemaBinding.Proofs.Resolve.Once`: each declaration gets its type once

The pass that gives types goes through the declarations, which are listed once each. A step changes no node besides its
own (`node_resolveDeclaration_of_ne`). So what the pass makes of a node is what one step makes of it, and before that step
the node is as it was at first (`exists_moment_of_declaration`). The models in between differ from the first one in what
is resolved, so they look up names and follow types in the same way. A declaration gets the resolution that it has in one of
them (`exists_resolution_of_declaration`).
-/

set_option autoImplicit false

namespace SchemaBinding

theorem node_resolveDeclaration_of_ne (m : Model) {id x : NodeId} (hne : x ≠ id) :
    (resolveDeclaration m id).model.node x = m.node x := by
  show ((Model.modifyNode _ id _).modifyNode id _).node x = m.node x
  rw [Model.node_modifyNode, if_neg fun h => hne h.1, Model.node_modifyNode, if_neg fun h => hne h.1]

theorem node_foldl_resolveDeclaration_of_not_mem (m : Model) {ids : List NodeId} {x : NodeId} (hx : x ∉ ids) :
    (ids.foldl (fun m id => (resolveDeclaration m id).model) m).node x = m.node x := by
  induction ids generalizing m with
  | nil => rfl
  | cons id rest ih =>
      rw [List.mem_cons, not_or] at hx
      rw [List.foldl_cons, ih _ hx.2, node_resolveDeclaration_of_ne m hx.1]

/-- What the pass makes of a declaration is what one step makes of it, in a model with the same names and types where the
declaration is not resolved yet. -/
theorem exists_moment_of_declaration {α : Type} (view : Node → α)
    (hview : ∀ n r collapse, view (applyResolution r collapse n) = view n)
    (hattributes : ∀ n a, view { n with attributes := a } = view n) {m : Model} {id : NodeId}
    (hid : id ∈ m.declarations) :
    ∃ moment, Model.Keeps view (fun s => s) m moment ∧ moment.node id = m.node id ∧
      (resolveTypes m).model.node id = (resolveDeclaration moment id).model.node id := by
  obtain ⟨before, after, hsplit⟩ := List.append_of_mem hid
  have hnodup := Model.nodup_declarations m
  rw [hsplit, List.nodup_append] at hnodup
  have hbefore : id ∉ before := fun h => hnodup.2.2 id h id (List.mem_cons_self ..) rfl
  have hafter : id ∉ after := (List.nodup_cons.mp hnodup.2.1).1
  refine ⟨before.foldl (fun m id => (resolveDeclaration m id).model) m, ?_, ?_, ?_⟩
  · exact .foldl (fun m id => keeps_resolveDeclaration hview hattributes m id) m before
  · exact node_foldl_resolveDeclaration_of_not_mem m hbefore
  · rw [resolveTypes, model_forEach, hsplit, List.foldl_append, List.foldl_cons,
      node_foldl_resolveDeclaration_of_not_mem _ hafter]

/-- The pass gives a declaration the resolution that it has in a model with the same names and types. Its attributes are
resolved for themselves. -/
theorem exists_resolution_of_declaration {α : Type} {f : Node → α}
    (hattributes : ∀ n a, f { n with attributes := a } = f n) {m : Model} {id : NodeId} (hid : id ∈ m.declarations) :
    ∃ moment collapse, Model.Keeps Node.declaredType (fun s => s) m moment ∧
      f ((resolveTypes m).model.node id) =
        f (applyResolution (resolveNode moment (m.node id)).1 collapse (m.node id)) := by
  obtain ⟨moment, hkeep, hnode, htyped⟩ :=
    exists_moment_of_declaration Node.declaredType (fun _ _ _ => rfl) (fun _ _ => rfl) hid
  have hheld : moment.Holds id := (hkeep.holds_iff id).mpr (Model.holds_of_mem_declarations hid)
  obtain ⟨collapse, hview⟩ := view_resolveDeclaration hattributes moment id id
  rw [if_pos ⟨rfl, hheld⟩, hnode] at hview
  exact ⟨moment, collapse, hkeep, by rw [htyped, hview]⟩

end SchemaBinding
