import SchemaBinding.Proofs.Resolve.Registered

/-!
# `SchemaBinding.Proofs.Resolve.Typed`: what a named type stands for

A type name is followed from one registered element to the next, until it comes to a built-in type, to a simple type, or
to a declaration that names itself. Only in the last case does a node get a named type, and the name is that of a
declaration which is its own type (`OwnType`, `Model.IsResolved.exists_ownType`).

Such a declaration need not have any content. Two ways lead to it: a declaration without a type name goes by its own
name, and an element may happen to share its name with a type that nobody declares. The first kind is complex, unless a
simple type stands inside of it (`Model.IsResolved.isComplex_or_inline`).
-/

set_option autoImplicit false

namespace SchemaBinding

/-- The declaration that is registered under the name is its own type. -/
structure OwnType (m : Model) (name : String) (id : NodeId) : Prop where
  registered : m.element? name = some id
  /-- Its type name, or its own name if it has none, leads back to it. -/
  typed : m.builtins.classify (m.node id).declaredType = .named name
  notSimple : m.simpleType? name = none

/-- It does not depend on what a node comes to be known of. -/
theorem OwnType.of_keeps {m m' : Model} {name : String} {id : NodeId} (h : OwnType m name id)
    (hkeep : Model.Keeps Node.declaredType (fun s => s) m m') : OwnType m' name id := by
  have hsymbols : m'.symbols = m.symbols := hkeep.symbols
  refine ⟨?_, ?_, ?_⟩
  · rw [Model.element?, hsymbols]
    exact h.registered
  · rw [hkeep.builtins, hkeep.node]
    exact h.typed
  · rw [Model.simpleType?, hsymbols]
    exact h.notSimple

/-! ### Chains of elements -/

section chains

variable {m : Model} {owner start name key : String}

/-- A step only ends with a named type at an element that names itself. -/
theorem elementStep_eq_done {n : Node} {r : Resolution} {findings : Diagnostics}
    (h : elementStep m owner name n = .done r findings) (hr : r.type = .named key) :
    key = name ∧ m.builtins.classify n.declaredType = .named name ∧ m.simpleType? name = none := by
  unfold elementStep at h
  split at h
  · cases h
    cases hr
  · cases h
    cases hr
  · rename_i next hnext
    split at h
    · cases h
      cases hr
    · rename_i hsimple
      split at h
      · rename_i heq
        cases h
        cases hr
        exact ⟨rfl, heq ▸ hnext, by simpa [heq] using hsimple⟩
      · split at h
        · cases h
        · cases h
          cases hr

/-- A chain of elements only comes to a named type at a declaration that is its own type. -/
theorem exists_ownType_of_chaseElementsFrom {room : Nat} {facets : Option Facets}
    (h : (chaseElementsFrom m owner start room facets name).1.type = .named key) : ∃ id, OwnType m key id := by
  induction room generalizing facets name with
  | zero => cases h
  | succ room ih =>
      unfold chaseElementsFrom at h
      split at h
      · cases h
      · rename_i id hid
        dsimp only at h
        split at h
        · rename_i r findings hstep
          obtain ⟨rfl, htyped, hsimple⟩ := elementStep_eq_done hstep h
          exact ⟨id, hid, htyped, hsimple⟩
        · exact ih h

/-- The same for the type of a node. -/
theorem exists_ownType_of_resolveNode {n : Node} (h : (resolveNode m n).1.type = .named key) :
    ∃ id, OwnType m key id := by
  unfold resolveNode at h
  split at h
  · cases h
  · split at h
    · cases h
    · unfold resolveDeclaredType at h
      split at h
      · cases h
      · cases h
      · split at h
        · unfold chaseElements at h
          exact exists_ownType_of_chaseElementsFrom h
        · split at h
          · cases h
          · split at h
            · unfold contentless at h
              dsimp only at h
              split at h <;> cases h
            · cases h

/-- A declaration that is its own type is resolved as a complex type, if its declared type counts. -/
theorem OwnType.isComplex_resolveDeclaredType {id : NodeId} (h : OwnType m name id) :
    (resolveDeclaredType m (m.node id)).1.isComplex = true := by
  have hstep : elementStep m (m.node id).name name (m.node id) = .done (.complex name) [] := by
    simp [elementStep, h.typed, h.notSimple]
  have hchase : ∀ room, (chaseElementsFrom m (m.node id).name name (room + 1) none name).1.isComplex = true := by
    intro room
    unfold chaseElementsFrom
    simp only [h.registered, hstep]
    rfl
  unfold resolveDeclaredType
  simp only [h.typed, h.registered, Option.isSome_some, if_true]
  exact hchase maxAliasHops

end chains

/-! ### The pass -/

theorem keeps_declaredType (m : Model) (id : NodeId) :
    Model.Keeps Node.declaredType (fun s => s) m (resolveDeclaration m id).model :=
  keeps_resolveDeclaration (fun _ _ _ => rfl) (fun _ _ => rfl) m id

/-- A step gives a node its resolution. Its attributes are resolved for themselves. -/
theorem view_resolveDeclaration {α : Type} {f : Node → α} (hattributes : ∀ n a, f { n with attributes := a } = f n)
    (m : Model) (id x : NodeId) :
    ∃ collapse, f ((resolveDeclaration m id).model.node x) =
      f (if x = id ∧ m.Holds id then applyResolution (resolveNode m (m.node id)).1 collapse (m.node x)
        else m.node x) := by
  refine ⟨((m.node id).base.bind m.simpleType?).any (·.collapseWhiteSpace), ?_⟩
  rw [← Model.node_modifyNode]
  exact Model.congr_modifyNode (fun n => hattributes n _) _ id x

theorem exists_ownType_of_resolveTypes {m : Model} (hnone : ∀ id, (m.node id).resolvedType = none) {id : NodeId}
    {name : String} (h : ((resolveTypes m).model.node id).resolvedType = some (.named name)) :
    ∃ x, OwnType m name x := by
  unfold resolveTypes at h
  rw [model_forEach] at h
  have hinvariant := List.foldlRecOn m.declarations (fun m id => (resolveDeclaration m id).model)
    (motive := fun current => Model.Keeps Node.declaredType (fun s => s) m current ∧
      ∀ id name, (current.node id).resolvedType = some (.named name) → ∃ x, OwnType m name x)
    ⟨.refl m, fun id name hid => ?_⟩ ?_
  · exact hinvariant.2 id name h
  · cases (hnone id).symm.trans hid
  · rintro current ⟨hkeep, hold⟩ new -
    refine ⟨hkeep.trans (keeps_declaredType current new), fun id name hid => ?_⟩
    obtain ⟨collapse, htype⟩ := view_resolveDeclaration (f := Node.resolvedType) (fun _ _ => rfl) current new id
    rw [hid] at htype
    split at htype
    · obtain ⟨x, hx⟩ := exists_ownType_of_resolveNode (Option.some.inj htype).symm
      exact ⟨x, hx.of_keeps hkeep.symm⟩
    · exact hold id name htype.symm

/-- The node is complex, or a simple type stands inside of it. -/
def ComplexOrInline (m : Model) (id : NodeId) : Prop :=
  (m.node id).isComplex = true ∨ (m.node id).inlineSimpleType? m ≠ none

theorem ComplexOrInline.of_eq {m m' : Model} {id : NodeId} (h : ComplexOrInline m id)
    (hnode : ((m'.node id).isComplex, (m'.node id).rawType, (m'.node id).simpleTypeName) =
      ((m.node id).isComplex, (m.node id).rawType, (m.node id).simpleTypeName))
    (hsimple : m'.simpleType? = m.simpleType?) : ComplexOrInline m' id := by
  obtain ⟨hcomplex, hrest⟩ := Prod.mk.inj hnode
  obtain ⟨hraw, hname⟩ := Prod.mk.inj hrest
  unfold ComplexOrInline Node.inlineSimpleType? at h ⊢
  rw [hcomplex, hraw, hname, hsimple]
  exact h

/-- A simple type inside of a node stays when the node is resolved. -/
theorem inlineSimpleType?_resolveDeclaration {m : Model} {id : NodeId} (h : (m.node id).inlineSimpleType? m ≠ none) :
    ((resolveDeclaration m id).model.node id).inlineSimpleType? (resolveDeclaration m id).model ≠ none := by
  have hsimple : (resolveDeclaration m id).model.simpleType? = m.simpleType? :=
    (show Model.Keeps Node.declaredType Symbols.simpleTypes m (resolveDeclaration m id).model from
      keeps_resolveDeclaration (fun _ _ _ => rfl) (fun _ _ => rfl) m id).simpleType?_eq
  obtain ⟨collapse, hnode⟩ := view_resolveDeclaration (f := fun n => (n.rawType, n.simpleTypeName)) (fun _ _ => rfl) m id id
  unfold Node.inlineSimpleType? at h ⊢
  cases hname : (m.node id).simpleTypeName with
  | none => simp [hname] at h
  | some name =>
      -- A name that is there is not replaced.
      have hsame : ((resolveDeclaration m id).model.node id).rawType = (m.node id).rawType ∧
          ((resolveDeclaration m id).model.node id).simpleTypeName = some name := by
        split at hnode <;> simpa [applyResolution, hname] using hnode
      rw [hname] at h
      rwa [hsimple, hsame.1, hsame.2]

/-- A declaration that is its own type, and is resolved by its declared type. -/
structure OwnDeclaredType (m : Model) (name : String) (id : NodeId) : Prop where
  held : m.Holds id
  ownType : OwnType m name id
  notWildcard : (m.node id).isWildcard = false

theorem OwnDeclaredType.of_keeps {m m' : Model} {name : String} {id : NodeId} (h : OwnDeclaredType m name id)
    (hkeep : Model.Keeps (fun n => (n.declaredType, n.isWildcard)) (fun s => s) m m') : OwnDeclaredType m' name id where
  held := (hkeep.holds_iff id).mpr h.held
  ownType := h.ownType.of_keeps (hkeep.of_view Prod.fst)
  notWildcard := ((hkeep.of_view Prod.snd).node id).trans h.notWildcard

theorem OwnDeclaredType.resolveDeclaration {m : Model} {name : String} {id : NodeId} (h : OwnDeclaredType m name id) :
    ComplexOrInline (resolveDeclaration m id).model id := by
  by_cases hinline : (m.node id).inlineSimpleType? m = none
  · left
    have hcomplex : (resolveNode m (m.node id)).1.isComplex = true := by
      unfold resolveNode
      simp only [h.notWildcard, Bool.false_eq_true, if_false, hinline]
      exact h.ownType.isComplex_resolveDeclaredType
    obtain ⟨collapse, hnode⟩ := view_resolveDeclaration (f := Node.isComplex) (fun _ _ => rfl) m id id
    rw [hnode, if_pos ⟨rfl, h.held⟩, applyResolution, hcomplex, Bool.or_true]
  · exact Or.inr (inlineSimpleType?_resolveDeclaration hinline)

/-- A declaration that is its own type becomes complex, unless there is a simple type inside of it. -/
theorem OwnDeclaredType.resolveTypes {m : Model} {name : String} {id : NodeId} (h : OwnDeclaredType m name id)
    (hid : id ∈ m.declarations) : ComplexOrInline (resolveTypes m).model id := by
  have hkeep : ∀ m id, Model.Keeps (fun n => (n.declaredType, n.isWildcard)) (fun s => s) m
      (SchemaBinding.resolveDeclaration m id).model :=
    keeps_resolveDeclaration (fun _ _ _ => rfl) fun _ _ => rfl
  unfold SchemaBinding.resolveTypes
  rw [model_forEach]
  refine forall_mem_foldl (P := fun current id => OwnDeclaredType current name id → ComplexOrInline current id)
    ?_ ?_ m m.declarations id hid (h.of_keeps (.foldl hkeep m m.declarations))
  · intro current id hown
    exact (hown.of_keeps (hkeep current id).symm).resolveDeclaration
  · intro current other id hbefore hown
    have hown := hown.of_keeps (hkeep current other).symm
    by_cases heq : id = other
    · rw [← heq]
      exact hown.resolveDeclaration
    · obtain ⟨collapse, hnode⟩ := view_resolveDeclaration (f := fun n => (n.isComplex, n.rawType, n.simpleTypeName))
        (fun _ _ => rfl) current other id
      rw [if_neg fun hsame => heq hsame.1] at hnode
      exact (hbefore hown).of_eq hnode ((hkeep current other).of_known Symbols.simpleTypes).simpleType?_eq

/-! ### Resolved models -/

namespace Model.IsResolved

variable {names : NameTable} {r : Model} {id : NodeId} {name : String}

/-- A named type is that of a declaration that is its own type. -/
theorem exists_ownType (h : r.IsResolved names) (hid : (r.node id).resolvedType = some (.named name)) :
    ∃ x, OwnType r name x := by
  obtain ⟨m, hbuilt, rfl⟩ := h
  have hbefore : Keeps Node.resolvedType (fun _ => ()) m (Stage.registered names m) :=
    keeps_untyped names m (fun _ _ => rfl) (fun _ _ => rfl) (fun _ => rfl) fun _ _ _ => rfl
  have hlater : Keeps Node.resolvedType (fun _ => ()) (Stage.typed names m) (resolve names m).model :=
    keeps_typed names m (fun _ _ => rfl) (fun _ _ _ => rfl) fun _ => rfl
  have hnone : ∀ id, ((Stage.registered names m).node id).resolvedType = none := fun id =>
    (hbefore.node id).trans (hbuilt.unresolved id).1
  obtain ⟨x, hx⟩ := exists_ownType_of_resolveTypes hnone ((hlater.node id).symm.trans hid)
  exact ⟨x, hx.of_keeps (keeps_registered names m (fun _ _ => rfl) (fun _ _ _ => rfl) (fun _ _ _ => rfl) fun _ => rfl)⟩

/-- A declaration that is its own type is complex, unless there is a simple type inside of it. -/
theorem complexOrInline (h : r.IsResolved names) (hown : OwnType r name id) (hwildcard : (r.node id).isWildcard = false) :
    ComplexOrInline r id := by
  have hdeclared := (h.declared_of_element? hown.registered).1
  obtain ⟨m, hbuilt, rfl⟩ := h
  have hall : Keeps (fun n => (n.declaredType, n.isWildcard)) (fun s => s) (Stage.registered names m)
      (resolve names m).model :=
    keeps_registered names m (fun _ _ => rfl) (fun _ _ _ => rfl) (fun _ _ _ => rfl) fun _ => rfl
  have hlater : Keeps (fun n => (n.isComplex, n.rawType, n.simpleTypeName)) Symbols.simpleTypes (Stage.typed names m)
      (resolve names m).model :=
    keeps_typed names m (fun _ _ => rfl) (fun _ _ _ => rfl) fun _ => rfl
  have hbefore : OwnDeclaredType (Stage.registered names m) name id :=
    OwnDeclaredType.of_keeps ⟨holds_of_mem_declarations hdeclared, hown, hwildcard⟩ hall.symm
  have hregistered : id ∈ (Stage.registered names m).declarations := by
    have hkeep : Keeps (fun n => (n.kind, n.children)) (fun _ => ()) (Stage.registered names m) (resolve names m).model :=
      keeps_registered names m (fun _ _ => rfl) (fun _ _ _ => rfl) (fun _ _ _ => rfl) fun _ => rfl
    rwa [← hkeep.declarations_eq]
  exact (hbefore.resolveTypes hregistered).of_eq (hlater.node id) hlater.simpleType?_eq

end Model.IsResolved

end SchemaBinding
