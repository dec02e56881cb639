import SchemaBinding.Proofs.Resolve.Findings

/-!
# `SchemaBinding.Proofs.Resolve.Registry`: the last declaration of a name

What the registration has put into its table stays there, since no later pass changes it, and no other pass tells of second
declarations (`filter_findings_resolve`). So the registry of a resolved model is that of the pass (`Model.IsBuilt.registry`).

Which declarations are nameable depends on what the groups and attribute groups have been expanded to, so it is asked of
the model between these passes and the registration (`Stage.collected`).
-/

set_option autoImplicit false

namespace SchemaBinding.Model

theorem name_resolve_collected (names : NameTable) (m : Model) (id : NodeId) :
    ((resolve names m).model.node id).name = ((Stage.collected m).node id).name := by
  have hpass : Keeps Node.name (fun _ => ()) (Stage.collected m) (Stage.registered names m) :=
    keeps_registerSymbols names (fun _ => rfl) (fun _ _ _ => rfl) _
  have hlater : Keeps Node.name (fun _ => ()) (Stage.registered names m) (resolve names m).model :=
    keeps_registered names m (fun _ _ => rfl) (fun _ _ _ => rfl) (fun _ _ _ => rfl) fun _ => rfl
  exact (hlater.node id).trans (hpass.node id)

/-- No pass before the registration registers anything, and none after it changes what is registered. -/
theorem IsBuilt.registry {m : Model} (h : m.IsBuilt) (names : NameTable) :
    Registry (Stage.collected m) (resolve names m).model.declarations (resolve names m).model.symbols.elements
      ((resolve names m).findings.filter (·.IsDeclaredAgain)) := by
  have hlater : Keeps Node.name Symbols.elements (Stage.registered names m) (resolve names m).model :=
    keeps_registered names m (fun _ _ => rfl) (fun _ _ _ => rfl) (fun _ _ _ => rfl) fun _ => rfl
  have hpass := registry_forEach names h.elements_collected (nodup_declarations (Stage.collected m))
  have hfindings : (resolve names m).findings.filter (·.IsDeclaredAgain) =
      (registerSymbols names (Stage.collected m)).findings :=
    (filter_findings_resolve names m).trans (List.filter_eq_self.mpr fun d hd => decide_eq_true (hpass.told d hd))
  have helements : (resolve names m).model.symbols.elements = (Stage.registered names m).symbols.elements :=
    hlater.symbols
  rw [declarations_resolve, helements, hfindings]
  exact hpass

/-- After the resolution of a schema that was read, a name is registered if and only if some declaration of the name is
nameable, for the last one of them in the preorder. The findings about second declarations are as many as the nameable
declarations that are not registered, and each name has one less of them than nameable declarations. -/
theorem IsBuilt.registry_resolve {m : Model} (h : m.IsBuilt) (names : NameTable) :
    let r := resolve names m
    let nameable := r.model.declarations.filter fun id => ((Stage.collected m).node id).IsNameable
    let named := fun name => nameable.filter fun id => (r.model.node id).name = name
    (∀ name, r.model.symbols.elements.Has name ↔
        ∃ id ∈ r.model.declarations, (r.model.node id).name = name ∧ ((Stage.collected m).node id).IsNameable) ∧
      (∀ name, r.model.element? name = (named name).getLast?) ∧
      r.model.symbols.elements.keys.Nodup ∧
      (r.findings.filter (·.IsDeclaredAgain)).length + r.model.symbols.elements.size = nameable.length ∧
      ∀ name, r.findings.count (declaredAgain name) = (named name).length - 1 := by
  intro r nameable named
  have hregistry := h.registry names
  have hname : ∀ id, (r.model.node id).name = ((Stage.collected m).node id).name := name_resolve_collected names m
  have hnamed : named = (Stage.collected m).nameableAs r.model.declarations := by
    funext name
    simp only [named, hname]
    rfl
  refine ⟨fun name => ?_, fun name => ?_, hregistry.nodup, hregistry.total, fun name => ?_⟩
  · simp only [hname]
    exact hregistry.has_iff
  · rw [hnamed]
    exact hregistry.element name
  · rw [hnamed, ← hregistry.each]
    have hagain : (declaredAgain name).IsDeclaredAgain := rfl
    refine (List.count_filter ?_).symm
    exact decide_eq_true hagain

/-- Two types of one name. -/
def declaredTwice : Model where
  nodes := #[taggedNode .schema "schema" false [⟨1⟩, ⟨2⟩], taggedNode .complexType "Dup" true [],
    taggedNode .complexType "Dup" true []]
  builtins := ⟨""⟩

theorem registry_resolve_declaredTwice :
    declaredTwice.IsBuilt ∧ (resolve ∅ declaredTwice).model.element? "Dup" = some ⟨2⟩ ∧
      (resolve ∅ declaredTwice).findings.count (declaredAgain "Dup") = 1 := by
  have hread : (Model.ofEvents none (enclosed "schema" [] (enclosed "complexType" [("name", "Dup")] [] ++
      enclosed "complexType" [("name", "Dup")] []))).toOption = some declaredTwice := by
    decide
  have hbuilt : declaredTwice.IsBuilt := Model.isBuilt_of_toOption_eq hread
  have hcollected : Stage.collected declaredTwice = declaredTwice := by cbv
  have hids : (resolve ∅ declaredTwice).model.declarations = [⟨1⟩, ⟨2⟩] := by
    rw [declarations_resolve, hcollected]
    cbv
  have hname : ∀ id, ((resolve ∅ declaredTwice).model.node id).name = (declaredTwice.node id).name :=
    ((keeps_written ∅ declaredTwice).of_view Node.name).node
  obtain ⟨-, hlast, -, -, hcount⟩ := hbuilt.registry_resolve ∅
  simp only [hids, hcollected, hname] at hlast hcount
  exact ⟨hbuilt, (hlast "Dup").trans (by decide), (hcount "Dup").trans (by decide)⟩

end SchemaBinding.Model
