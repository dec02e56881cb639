import SchemaBinding.Proofs.Resolve.Kept
import SchemaBinding.Proofs.Table

/-!
# `SchemaBinding.Proofs.Resolve.Registration`: the table that a pass over declarations leaves

The pass that registers declarations goes through them in the order of the preorder. `Registry` says what its table and
its findings are when it has been at some of them: the table has the last nameable one of each name, and each one before
it has been told of when it was displaced. One declaration keeps this in one of three ways (`Registry.skip`,
`Registry.first`, `Registry.again`).

* `Node.IsNameable`: which declarations are registered, as a condition on what they have.
* `registry_forEach`: the registry of a pass over different nodes.
-/

set_option autoImplicit false

namespace SchemaBinding

/-! ### What is to be registered -/

/-- A declaration that others may name: it has a name of its own, and it is top-level or has a child, an attribute or
a base. -/
def Node.IsNameable (n : Node) : Prop :=
  n.name ≠ "" ∧ (n.isTopLevel = true ∨ n.children ≠ [] ∨ n.attributes.keys ≠ [] ∨ n.base ≠ none)

theorem Node.isRegistered_iff {n : Node} : n.isRegistered = true ↔ n.IsNameable := by
  simp [isRegistered, IsNameable, Table.isEmpty, Table.keys, or_assoc, Option.isSome_iff_ne_none]

instance (n : Node) : Decidable n.IsNameable := decidable_of_iff _ Node.isRegistered_iff

/-- Clean names change nothing about what a node has. -/
theorem isRegistered_cleanNames (names : NameTable) (n : Node) : (cleanNames names n).isRegistered = n.isRegistered := by
  simp [Node.isRegistered, cleanNames, Table.map, Table.isEmpty]

namespace Model

/-- The nameable ones of some nodes. -/
def nameable (m : Model) (ids : List NodeId) : List NodeId := ids.filter fun id => (m.node id).IsNameable

/-- The nameable ones of some nodes that have a name. -/
def nameableAs (m : Model) (ids : List NodeId) (name : String) : List NodeId :=
  (m.nameable ids).filter fun id => (m.node id).name = name

variable {m : Model} {ids : List NodeId} {id : NodeId}

theorem mem_nameableAs_iff {name : String} :
    id ∈ m.nameableAs ids name ↔ id ∈ ids ∧ (m.node id).name = name ∧ (m.node id).IsNameable := by
  simp [nameableAs, nameable]

theorem nameable_concat (h : (m.node id).IsNameable) : m.nameable (ids ++ [id]) = m.nameable ids ++ [id] := by
  rw [nameable, List.filter_append, List.filter_singleton]
  simp [nameable, h]

theorem nameable_concat_of_not (h : ¬ (m.node id).IsNameable) : m.nameable (ids ++ [id]) = m.nameable ids := by
  rw [nameable, List.filter_append, List.filter_singleton]
  simp [nameable, h]

theorem nameableAs_concat (h : (m.node id).IsNameable) (name : String) :
    m.nameableAs (ids ++ [id]) name = m.nameableAs ids name ++ if (m.node id).name = name then [id] else [] := by
  rw [nameableAs, nameable_concat h, List.filter_append, List.filter_singleton]
  simp [nameableAs]

end Model

/-! ### One declaration -/

section step

variable {names : NameTable} {m : Model} {id : NodeId}

theorem registerNode_of_isNameable (h : (m.node id).IsNameable) :
    registerNode names m id =
      ⟨(m.modifyNode id (cleanNames names)).modifySymbols (·.registerElement (m.node id).name id),
        if (m.element? (m.node id).name).any (· ≠ id) then [declaredAgain (m.node id).name] else []⟩ := by
  have hname : ((m.modifyNode id (cleanNames names)).node id).name = (m.node id).name :=
    Model.congr_modifyNode (f := cleanNames names) (g := Node.name) (fun _ => rfl) m id id
  have hregistered : ((m.modifyNode id (cleanNames names)).node id).isRegistered = true := by
    rw [Model.congr_modifyNode (g := Node.isRegistered) (isRegistered_cleanNames names) m id id]
    exact Node.isRegistered_iff.mpr h
  unfold registerNode
  dsimp only
  rw [if_pos hregistered, hname]
  rfl

theorem registerNode_of_not (h : ¬ (m.node id).IsNameable) :
    registerNode names m id = ⟨m.modifyNode id (cleanNames names), []⟩ := by
  have hregistered : ¬ ((m.modifyNode id (cleanNames names)).node id).isRegistered = true := by
    rw [Model.congr_modifyNode (g := Node.isRegistered) (isRegistered_cleanNames names) m id id]
    exact fun hid => h (Node.isRegistered_iff.mp hid)
  unfold registerNode
  dsimp only
  rw [if_neg hregistered]

end step

/-! ### The registry -/

/-- The finding is that its node has been declared before. -/
def Diagnostic.IsDeclaredAgain (d : Diagnostic) : Prop := d = declaredAgain d.node

instance (d : Diagnostic) : Decidable d.IsDeclaredAgain := inferInstanceAs (Decidable (d = declaredAgain d.node))

theorem declaredAgain_inj {name other : String} : declaredAgain name = declaredAgain other ↔ name = other := by
  simp [declaredAgain, Diagnostics.warning]

/-- The nameable ones of the nodes `ids` are registered, the last one of each name. All others of a name are told of. -/
structure Registry (m : Model) (ids : List NodeId) (elements : Table NodeId) (findings : Diagnostics) : Prop where
  element : ∀ name, elements.get? name = (m.nameableAs ids name).getLast?
  nodup : elements.keys.Nodup
  told : ∀ d ∈ findings, d.IsDeclaredAgain
  total : findings.length + elements.size = (m.nameable ids).length
  each : ∀ name, findings.count (declaredAgain name) = (m.nameableAs ids name).length - 1

namespace Registry

variable {m : Model} {ids : List NodeId} {elements : Table NodeId} {findings : Diagnostics} {id : NodeId}

theorem empty (m : Model) : Registry m [] ∅ [] where
  element _ := rfl
  nodup := List.nodup_nil
  told := by simp
  total := rfl
  each _ := rfl

/-- A node that nobody may name changes nothing. -/
theorem skip (h : Registry m ids elements findings) (hid : ¬ (m.node id).IsNameable) :
    Registry m (ids ++ [id]) elements findings := by
  have hsame : m.nameable (ids ++ [id]) = m.nameable ids := Model.nameable_concat_of_not hid
  have hnamed : m.nameableAs (ids ++ [id]) = m.nameableAs ids := by
    funext name
    rw [Model.nameableAs, hsame, Model.nameableAs]
  exact ⟨hnamed ▸ h.element, h.nodup, h.told, hsame ▸ h.total, hnamed ▸ h.each⟩

theorem element_insert (h : Registry m ids elements findings) (hid : (m.node id).IsNameable) (name : String) :
    (elements.insert (m.node id).name id).get? name = (m.nameableAs (ids ++ [id]) name).getLast? := by
  rw [Table.get?_insert, Model.nameableAs_concat hid]
  by_cases hname : (m.node id).name = name
  · rw [if_pos hname.symm, if_pos hname, List.getLast?_concat]
  · rw [if_neg (Ne.symm hname), if_neg hname, List.append_nil]
    exact h.element name

/-- The first one of its name is new in the table. -/
theorem first (h : Registry m ids elements findings) (hid : (m.node id).IsNameable)
    (hbefore : elements.get? (m.node id).name = none) :
    Registry m (ids ++ [id]) (elements.insert (m.node id).name id) findings where
  element := h.element_insert hid
  nodup := Table.nodup_keys_insert h.nodup _ _
  told := h.told
  total := by
    rw [Table.size_insert_of_not_has (Table.get?_eq_none_iff.mp hbefore), Model.nameable_concat hid,
      List.length_append, List.length_singleton, ← h.total, Nat.add_assoc]
  each name := by
    rw [Model.nameableAs_concat hid, h.each name]
    split
    · rename_i hname
      have hnone : m.nameableAs ids name = [] := by
        rw [← List.getLast?_eq_none_iff, ← h.element name, ← hname]
        exact hbefore
      rw [hnone]
      rfl
    · rw [List.append_nil]

/-- A later one takes the place of the one before it and is told of. -/
theorem again (h : Registry m ids elements findings) (hid : (m.node id).IsNameable) {last : NodeId}
    (hbefore : elements.get? (m.node id).name = some last) :
    Registry m (ids ++ [id]) (elements.insert (m.node id).name id) (findings ++ [declaredAgain (m.node id).name]) where
  element := h.element_insert hid
  nodup := Table.nodup_keys_insert h.nodup _ _
  told := List.forall_mem_append.mpr ⟨h.told, List.forall_mem_singleton.mpr rfl⟩
  total := by
    rw [Table.size_insert_of_has ⟨last, hbefore⟩, Model.nameable_concat hid, List.length_append, List.length_append,
      List.length_singleton, List.length_singleton, ← h.total, Nat.add_right_comm]
  each name := by
    rw [List.count_append, List.count_singleton, Model.nameableAs_concat hid, h.each name]
    by_cases hname : (m.node id).name = name
    · have hmem : last ∈ m.nameableAs ids name := by
        refine List.mem_of_getLast? ?_
        rw [← h.element name, ← hname]
        exact hbefore
      have hsome : 0 < (m.nameableAs ids name).length := List.length_pos_of_mem hmem
      rw [if_pos (by simp [hname]), if_pos hname, List.length_append, List.length_singleton]
      omega
    · rw [if_neg (by simpa [declaredAgain_inj] using hname), if_neg hname, List.append_nil, Nat.add_zero]

theorem has_iff (h : Registry m ids elements findings) {name : String} :
    elements.Has name ↔ ∃ id ∈ ids, (m.node id).name = name ∧ (m.node id).IsNameable := by
  rw [Table.Has]
  simp only [h.element name]
  constructor
  · rintro ⟨id, hlast⟩
    exact ⟨id, Model.mem_nameableAs_iff.mp (List.mem_of_getLast? hlast)⟩
  · rintro ⟨id, hid⟩
    have hmem : id ∈ m.nameableAs ids name := Model.mem_nameableAs_iff.mpr hid
    exact Option.isSome_iff_exists.mp (List.getLast?_isSome.mpr (List.ne_nil_of_mem hmem))

end Registry

/-- After a pass over different nodes the table and the findings are as the nodes say. -/
theorem registry_forEach (names : NameTable) {m : Model} (hnone : m.symbols.elements = ∅) {ids : List NodeId}
    (hnodup : ids.Nodup) :
    Registry m ids (Resolved.forEach m ids (registerNode names)).model.symbols.elements
      (Resolved.forEach m ids (registerNode names)).findings := by
  have hkeeps : ∀ ids : List NodeId, Model.Keeps (fun n => (n.name, n.isRegistered)) (fun _ => ()) m
      (Resolved.forEach m ids (registerNode names)).model :=
    keeps_forEach (keeps_registerNode names (fun n => Prod.ext rfl (isRegistered_cleanNames names n)) fun _ _ _ => rfl) m
  induction ids using List.reverseRecOn with
  | nil => exact hnone ▸ .empty m
  | append_singleton ids id ih =>
      obtain ⟨hids, -, hnew⟩ := List.nodup_append.mp hnodup
      have hbefore := ih hids
      obtain ⟨hname, hsame⟩ := Prod.mk.inj ((hkeeps ids).node id)
      have hstep : Resolved.forEach m (ids ++ [id]) (registerNode names) =
          (Resolved.forEach m ids (registerNode names)).andThen (registerNode names · id) := by
        rw [Resolved.forEach, List.foldl_append]
        rfl
      rw [hstep]
      generalize Resolved.forEach m ids (registerNode names) = r at hbefore hname hsame
      -- The nodes before this one have left its name and what it has as they were.
      have hnameable : (r.model.node id).IsNameable ↔ (m.node id).IsNameable := by
        rw [← Node.isRegistered_iff, ← Node.isRegistered_iff, hsame]
      by_cases hid : (m.node id).IsNameable
      · rw [Resolved.andThen, registerNode_of_isNameable (hnameable.mpr hid), hname]
        cases hlast : r.model.element? (m.node id).name with
        | none =>
            dsimp only
            rw [Option.any_none, if_neg Bool.false_ne_true, List.append_nil]
            exact hbefore.first hid hlast
        | some last =>
            have hmem : last ∈ m.nameableAs ids (m.node id).name := List.mem_of_getLast? (hbefore.element _ ▸ hlast)
            -- What is displaced is another node, since this one has not had its turn before.
            have hseen : last ∈ ids := (Model.mem_nameableAs_iff.mp hmem).1
            have hother : last ≠ id := hnew last hseen id List.mem_cons_self
            dsimp only
            rw [Option.any_some, if_pos (decide_eq_true hother)]
            exact hbefore.again hid hlast
      · rw [Resolved.andThen, registerNode_of_not (mt hnameable.mp hid)]
        dsimp only
        rw [List.append_nil]
        exact hbefore.skip hid

/-- Nothing is registered before the pass. -/
theorem Model.IsBuilt.elements_collected {m : Model} (h : m.IsBuilt) : (Stage.collected m).symbols.elements = ∅ := by
  have hkeep : Model.Keeps Node.name Symbols.elements m (Stage.collected m) :=
    keeps_collected m (fun _ _ => rfl) fun _ _ => rfl
  exact hkeep.symbols.trans h.populated.2.2

end SchemaBinding
