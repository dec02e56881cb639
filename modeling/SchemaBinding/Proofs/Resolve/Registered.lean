import SchemaBinding.Proofs.Resolve.Registration

/-!
# `SchemaBinding.Proofs.Resolve.Registered`: names and declarations of a resolved model

A pass gives each declaration its clean name and registers those that others may name. So in a resolved model every
declaration has the clean name of its own name (`Model.IsResolved.cleanName_eq`), and a registered name stands for a
declaration of that name (`Model.IsResolved.declared_of_element?`). The names of declarations with content are always
registered (`Model.IsResolved.exists_element?_of_content`).

The emittable nodes that the root reaches are declarations too (`Model.IsResolved.mem_declarations_of_isEmittable`).
-/

set_option autoImplicit false

namespace SchemaBinding

/-! ### The pass -/

section pass

variable (names : NameTable) (m : Model)

theorem node_registerNode (id x : NodeId) :
    (registerNode names m id).model.node x = (m.modifyNode id (cleanNames names)).node x := by
  unfold registerNode
  dsimp only
  split <;> rfl

/-- What the pass registers are the declarations that it goes through, under their names. -/
theorem declared_of_element?_registerSymbols (hnone : m.symbols.elements = ∅) {name : String} {id : NodeId}
    (h : (registerSymbols names m).model.element? name = some id) :
    id ∈ m.declarations ∧ (m.node id).name = name := by
  have hregistry := registry_forEach names hnone m.nodup_declarations
  have hlast : (m.nameableAs m.declarations name).getLast? = some id := (hregistry.element name).symm.trans h
  obtain ⟨hid, hname, -⟩ := Model.mem_nameableAs_iff.mp (List.mem_of_getLast? hlast)
  exact ⟨hid, hname⟩

/-- A declaration with a name and content is registered, unless another one of the name has taken its place. -/
theorem exists_element?_registerSymbols (hnone : m.symbols.elements = ∅) {id : NodeId} (h : id ∈ m.declarations)
    (hname : (m.node id).name ≠ "") (hcontent : m.children id ≠ []) :
    ∃ x, (registerSymbols names m).model.element? (m.node id).name = some x :=
  (registry_forEach names hnone m.nodup_declarations).has_iff.mpr ⟨id, h, rfl, hname, .inr (.inl hcontent)⟩

/-- What holds of every node with clean names holds of the declarations after the pass. -/
theorem of_cleanNames {P : Node → Prop} (hclean : ∀ n, P (cleanNames names n)) {id : NodeId} (h : id ∈ m.declarations) :
    P ((registerSymbols names m).model.node id) := by
  have hkeep : ∀ current id, Model.Keeps (fun _ => ()) (fun _ => ()) current (registerNode names current id).model :=
    keeps_registerNode names (fun _ => rfl) fun _ _ _ => rfl
  have hall := forall_mem_foldl (f := fun m id => (registerNode names m id).model)
    (P := fun current id => current.Holds id → P (current.node id)) ?_ ?_ m m.declarations id h
  · unfold registerSymbols
    rw [model_forEach]
    exact hall (((Model.Keeps.foldl hkeep m m.declarations).holds_iff id).mpr (Model.holds_of_mem_declarations h))
  · intro current id hheld
    rw [node_registerNode, Model.node_modifyNode, if_pos ⟨rfl, ((hkeep current id).holds_iff id).mp hheld⟩]
    exact hclean _
  · -- Another declaration's turn leaves the node alone, and the same one's turn cleans its names once more.
    intro current other id hid hheld
    rw [node_registerNode, Model.node_modifyNode]
    split
    · exact hclean _
    · exact hid (((hkeep current other).holds_iff id).mp hheld)

theorem cleanName_registerSymbols {id : NodeId} (h : id ∈ m.declarations) :
    ((registerSymbols names m).model.node id).cleanName =
      names.clean ((registerSymbols names m).model.node id).name :=
  of_cleanNames names m (P := fun n => n.cleanName = names.clean n.name) (fun _ => rfl) h

/-- The attributes of a declaration have the clean names of their names too. -/
theorem attributeNames_registerSymbols {id : NodeId} (h : id ∈ m.declarations) :
    ∀ d ∈ ((registerSymbols names m).model.node id).attributes.values, d.cleanName = names.clean d.name := by
  refine of_cleanNames names m (P := fun n => ∀ d ∈ n.attributes.values, d.cleanName = names.clean d.name) ?_ h
  intro n d hd
  obtain ⟨entry, hentry, rfl⟩ := List.mem_map.mp hd
  obtain ⟨old, -, rfl⟩ := List.mem_map.mp hentry
  rfl

end pass

/-! ### Resolved models -/

theorem Node.isEmittable_iff {n : Node} : n.isEmittable = true ↔ n.isExplicitlyDefined = true ∧ n.isComplex = true :=
  Bool.and_eq_true_iff

namespace Model.IsResolved

variable {names : NameTable} {r : Model} {id : NodeId}

/-- Every declaration has the clean name of its name. -/
theorem cleanName_eq (h : r.IsResolved names) (hid : id ∈ r.declarations) :
    (r.node id).cleanName = names.clean (r.node id).name := by
  obtain ⟨m, -, rfl⟩ := h
  have hlater : Keeps (fun n => (n.name, n.cleanName)) (fun _ => ()) (Stage.registered names m) (resolve names m).model :=
    keeps_registered names m (fun _ _ => rfl) (fun _ _ _ => rfl) (fun _ _ _ => rfl) fun _ => rfl
  rw [declarations_resolve] at hid
  have hclean := cleanName_registerSymbols names (Stage.collected m) hid
  obtain ⟨hname, hcleanName⟩ := Prod.mk.inj (hlater.node id)
  rw [hname, hcleanName]
  exact hclean

/-- A registered name stands for a declaration of that name. -/
theorem declared_of_element? (h : r.IsResolved names) {name : String} (hid : r.element? name = some id) :
    id ∈ r.declarations ∧ (r.node id).name = name := by
  obtain ⟨m, hbuilt, rfl⟩ := h
  have hlater : Keeps Node.name Symbols.elements (Stage.registered names m) (resolve names m).model :=
    keeps_registered names m (fun _ _ => rfl) (fun _ _ _ => rfl) (fun _ _ _ => rfl) fun _ => rfl
  have hpass : Keeps Node.name (fun _ => ()) (Stage.collected m) (Stage.registered names m) :=
    keeps_registerSymbols names (fun _ => rfl) (fun _ _ _ => rfl) _
  have hsame : (Stage.registered names m).element? name = some id := hlater.element?_eq ▸ hid
  obtain ⟨hmem, hname⟩ := declared_of_element?_registerSymbols names (Stage.collected m) hbuilt.elements_collected hsame
  rw [declarations_resolve]
  exact ⟨hmem, ((hlater.node id).trans (hpass.node id)).trans hname⟩

/-- Where a declaration has content and a name, the name is registered. -/
theorem exists_element?_of_content (h : r.IsResolved names) (hid : id ∈ r.declarations) (hname : (r.node id).name ≠ "")
    (hcontent : r.children id ≠ []) : ∃ x, r.element? (r.node id).name = some x ∧ (r.node x).name = (r.node id).name := by
  suffices hregistered : ∃ x, r.element? (r.node id).name = some x by
    obtain ⟨x, hx⟩ := hregistered
    exact ⟨x, hx, (h.declared_of_element? hx).2⟩
  obtain ⟨m, hbuilt, rfl⟩ := h
  rw [declarations_resolve] at hid
  have hpass : Keeps (fun n => (n.name, n.children)) (fun _ => ()) (Stage.collected m) (resolve names m).model :=
    (keeps_registerSymbols names (fun _ => rfl) (fun _ _ _ => rfl) _).trans
      (keeps_registered names m (fun _ _ => rfl) (fun _ _ _ => rfl) (fun _ _ _ => rfl) fun _ => rfl)
  have hlater : Keeps Node.name Symbols.elements (Stage.registered names m) (resolve names m).model :=
    keeps_registered names m (fun _ _ => rfl) (fun _ _ _ => rfl) (fun _ _ _ => rfl) fun _ => rfl
  obtain ⟨hname', hchildren⟩ := Prod.mk.inj (hpass.node id)
  rw [hlater.element?_eq, hname']
  exact exists_element?_registerSymbols names _ hbuilt.elements_collected hid (by rwa [← hname'])
    (by rwa [children, ← hchildren])

/-- A node with content of its own is an element or a complex type, and names no type. -/
theorem written_of_isExplicitlyDefined (h : r.IsResolved names) (hexplicit : (r.node id).isExplicitlyDefined = true) :
    r.Holds id ∧ id ≠ root ∧ ((r.node id).kind = .element ∨ (r.node id).kind = .complexType) ∧
      (r.node id).rawType = "" := by
  obtain ⟨m, hbuilt, rfl⟩ := h
  have hwritten := (keeps_written names m).node id
  have hbefore : (m.node id).isExplicitlyDefined = true :=
    have hsame := congrArg Node.isExplicitlyDefined hwritten
    hsame.symm.trans hexplicit
  obtain ⟨hheld, hroot, hnew⟩ := hbuilt.isNew_of_isExplicitlyDefined hbefore
  obtain ⟨hkind, hraw, -⟩ := hnew.isExplicitlyDefined hbefore
  have hsamekind := congrArg Node.kind hwritten
  have hsameraw := congrArg Node.rawType hwritten
  exact ⟨((keeps_written names m).holds_iff id).mpr hheld, hroot, hkind.imp hsamekind.trans hsamekind.trans,
    hsameraw.trans hraw⟩

theorem mem_declarations_of_isExplicitlyDefined (h : r.IsResolved names) (hreaches : r.Reaches root id)
    (hexplicit : (r.node id).isExplicitlyDefined = true) : id ∈ r.declarations := by
  obtain ⟨hheld, -, hkind, -⟩ := h.written_of_isExplicitlyDefined hexplicit
  refine mem_declarations_iff.mpr ⟨hreaches, hheld, ?_⟩
  rcases hkind with hkind | hkind <;> rw [hkind] <;> decide

theorem mem_declarations_of_isEmittable (h : r.IsResolved names) (hreaches : r.Reaches root id)
    (he : (r.node id).isEmittable = true) : id ∈ r.declarations :=
  h.mem_declarations_of_isExplicitlyDefined hreaches (Node.isEmittable_iff.mp he).1

end Model.IsResolved

end SchemaBinding
