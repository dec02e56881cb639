import SchemaBinding.Proofs.Builder.NamedTables
import SchemaBinding.Proofs.Resolve.Kept

/-!
# `SchemaBinding.Proofs.Resolve.NamedTables`: one answer for all spellings of a name

No pass changes the tables of simple types and of attribute groups, so they are as well named after a resolution as before
(`Symbols.WellNamed.resolve`). For a schema that was read this means that two spellings with one cleaned name lead to the
same simple type, or neither leads to any (`Model.IsBuilt.wellNamed_resolve`).
-/

set_option autoImplicit false

namespace SchemaBinding

theorem Symbols.WellNamed.resolve {m : Model} (h : m.symbols.WellNamed) (names : NameTable) :
    (resolve names m).model.symbols.WellNamed := by
  let known := fun s : Symbols => (s.simpleTypes, s.topLevelSimpleTypes, s.attributeGroups)
  have hkeep : Model.Keeps (fun _ => ()) known m (SchemaBinding.resolve names m).model :=
    (keeps_untyped names m (fun _ _ => rfl) (fun _ _ => rfl) (fun _ => rfl) fun _ _ _ => rfl).trans
      (keeps_registered names m (fun _ _ => rfl) (fun _ _ _ => rfl) (fun _ _ _ => rfl) fun _ => rfl)
  obtain ⟨hsimple, hrest⟩ := Prod.mk.inj hkeep.symbols
  obtain ⟨hlisted, hgroups⟩ := Prod.mk.inj hrest
  exact ⟨hsimple ▸ h.simpleTypes, hlisted ▸ hsimple ▸ h.topLevel, hgroups ▸ h.attributeGroups⟩

namespace Model

theorem IsResolved.wellNamed {names : NameTable} {r : Model} (h : r.IsResolved names) : r.symbols.WellNamed := by
  obtain ⟨m, hbuilt, rfl⟩ := h
  exact hbuilt.wellNamed.resolve names

/-- In a schema that was read the keys of simple types and of attribute groups are the names of what they stand for, those
of simple types are clean, and all top-level simple types are in their table. So what is found is what the table has under
the cleaned name, and names that are the same when they are cleaned find the same simple type. All of this is so after the
resolution too. -/
theorem IsBuilt.wellNamed_resolve {m : Model} (h : m.IsBuilt) (names : NameTable) :
    ∀ r ∈ [m, (resolve names m).model],
      r.symbols.WellNamed ∧ (∀ name, r.simpleType? name = r.symbols.simpleTypes.get? (cleanup name)) ∧
        ∀ name other, cleanup name = cleanup other → r.simpleType? name = r.simpleType? other := by
  intro r hr
  have hnamed : r.symbols.WellNamed := by
    rcases List.mem_cons.mp hr with rfl | hr
    · exact h.wellNamed
    · exact List.mem_singleton.mp hr ▸ h.wellNamed.resolve names
  exact ⟨hnamed, hnamed.simpleType?_eq, fun _ _ => hnamed.simpleType?_congr⟩

/-- A simple type whose name is not clean. -/
def dottedType : Model where
  nodes := #[taggedNode .schema "schema" false []]
  symbols := { simpleTypes := .ofList [("order_size", { name := "order_size" })], topLevelSimpleTypes := ["order_size"] }
  builtins := ⟨""⟩

theorem wellNamed_resolve_dottedType :
    dottedType.IsBuilt ∧ cleanup "order.size" = cleanup "order-size" ∧
      dottedType.simpleType? "order.size" = some { name := "order_size" } ∧
      (resolve ∅ dottedType).model.simpleType? "order.size" = (resolve ∅ dottedType).model.simpleType? "order-size" := by
  have hread : (Model.ofEvents none (enclosed "schema" [] (enclosed "simpleType" [("name", "order.size")] []))).toOption =
      some dottedType := by
    decide
  have hbuilt : dottedType.IsBuilt := Model.isBuilt_of_toOption_eq hread
  have hsame : cleanup "order.size" = cleanup "order-size" := by decide
  have hresolved : (resolve ∅ dottedType).model ∈ [dottedType, (resolve ∅ dottedType).model] :=
    List.mem_cons_of_mem _ List.mem_cons_self
  exact ⟨hbuilt, hsame, by decide, (hbuilt.wellNamed_resolve ∅ _ hresolved).2.2 _ _ hsame⟩

end Model

end SchemaBinding
