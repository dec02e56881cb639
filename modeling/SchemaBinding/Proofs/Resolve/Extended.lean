import SchemaBinding.Proofs.Resolve.Kept

/-!
# `SchemaBinding.Proofs.Resolve.Extended`: which declarations are marked as extended

The last pass goes through all declarations and marks what each of them extends. It follows a base name through the
registry alone, so what gets the mark is the declaration that is registered under that name, and no other one with the
name (`isExtended_markExtended`).

No node is marked before, so this is also what is marked in a resolved model (`Model.IsResolved.isExtended_iff`).
-/

set_option autoImplicit false

namespace SchemaBinding

namespace Model

variable {m m' : Model}

theorem registeredBase?_congr (h : Keeps Node.base Symbols.elements m m') (id : NodeId) :
    m'.registeredBase? id = m.registeredBase? id := by
  rw [registeredBase?, registeredBase?, h.node, h.element?_eq]

end Model

/-- A step marks the declaration that a node extends, and leaves all other marks as they are. -/
theorem isExtended_markBase (m : Model) (id : NodeId) {x : NodeId} (hheld : m.Holds x) :
    ((markBase m id).model.node x).isExtended = true ↔
      (m.node x).isExtended = true ∨ (id ≠ x ∧ m.registeredBase? id = some x) := by
  unfold markBase
  cases hbase : m.registeredBase? id with
  | none => simp
  | some base =>
      by_cases hself : base = id
      · -- A node that names itself leaves no mark.
        simp only [if_pos hself, Option.some.injEq]
        refine ⟨Or.inl, fun h => h.resolve_right ?_⟩
        rintro ⟨hne, rfl⟩
        exact hne hself.symm
      · simp only [if_neg hself, Model.node_modifyNode, Option.some.injEq]
        by_cases hx : x = base
        · rw [if_pos ⟨hx, hx ▸ hheld⟩]
          exact ⟨fun _ => Or.inr ⟨fun hid => hself (hx ▸ hid.symm), hx.symm⟩, fun _ => rfl⟩
        · rw [if_neg fun h => hx h.1]
          exact ⟨Or.inl, fun h => h.resolve_right fun h => hx h.2.symm⟩

/-- Marks do not change what is extended, so each of them can be read off the model before the first one. -/
theorem isExtended_foldl_markBase (m : Model) (ids : List NodeId) {x : NodeId} (hheld : m.Holds x) :
    ((ids.foldl (fun m id => (markBase m id).model) m).node x).isExtended = true ↔
      (m.node x).isExtended = true ∨ ∃ id ∈ ids, id ≠ x ∧ m.registeredBase? id = some x := by
  induction ids generalizing m with
  | nil => simp
  | cons first rest ih =>
      have hkeep : Model.Keeps Node.base Symbols.elements m (markBase m first).model := keeps_markBase (fun _ => rfl) m first
      rw [List.foldl_cons, ih _ ((hkeep.holds_iff x).mpr hheld), isExtended_markBase m first hheld]
      simp only [Model.registeredBase?_congr hkeep, List.mem_cons, exists_eq_or_imp, or_assoc]

/-- A declaration is marked if it was before, or if a declaration besides itself extends it by the registry. -/
theorem isExtended_markExtended {m : Model} {x : NodeId} (hheld : m.Holds x) :
    ((markExtended m).model.node x).isExtended = true ↔
      (m.node x).isExtended = true ∨ ∃ id ∈ m.declarations, id ≠ x ∧ m.registeredBase? id = some x := by
  unfold markExtended
  rw [model_forEach]
  exact isExtended_foldl_markBase m m.declarations hheld

namespace Model

/-- A node of a resolved model is marked if and only if a declaration besides itself extends it by the registry. -/
theorem IsResolved.isExtended_iff {names : NameTable} {r : Model} (h : r.IsResolved names) {x : NodeId}
    (hheld : r.Holds x) :
    (r.node x).isExtended = true ↔ ∃ id ∈ r.declarations, id ≠ x ∧ r.registeredBase? id = some x := by
  obtain ⟨m, hbuilt, rfl⟩ := h
  have hmarks : ∀ {α : Type} (view : Node → α), (∀ n, view { n with isExtended := true } = view n) →
      Keeps view Symbols.elements (Stage.unmarked names m) (resolve names m).model :=
    fun _ hview => keeps_markExtended hview (Stage.unmarked names m)
  have hunmarked : Keeps Node.isExtended (fun _ => ()) m (Stage.unmarked names m) :=
    (keeps_untyped names m (fun _ _ => rfl) (fun _ _ => rfl) (fun _ => rfl) fun _ _ _ => rfl).trans
      ((keeps_resolveTypes (fun _ _ _ => rfl) (fun _ _ => rfl) _).trans
        (keeps_unmarked names m (fun _ _ _ => rfl) fun _ _ => rfl))
  -- No builder makes a mark, and no other pass does.
  have hnone : ((Stage.unmarked names m).node x).isExtended = false :=
    (hunmarked.node x).trans (hbuilt.unresolved x).2.2
  have hbefore : (Stage.unmarked names m).Holds x :=
    ((hmarks Node.kind fun _ => rfl).holds_iff x).mp hheld
  rw [(hmarks _ fun _ => rfl).declarations_eq]
  simp only [registeredBase?_congr (hmarks Node.base fun _ => rfl)]
  rw [model_resolve, isExtended_markExtended hbefore, hnone]
  simp

end Model

end SchemaBinding
