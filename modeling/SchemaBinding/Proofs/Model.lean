import Mathlib.Logic.Relation
import SchemaBinding.Resolve.Pass

/-!
# `SchemaBinding.Proofs.Model`: the nodes of a model and what reaches what

A change to a node leaves all other nodes as they are, and a change to a place that holds no node has no effect
(`node_modifyNode`). The preorder of a node lists nodes of the model (`holds_of_mem_preorderFrom`), each of them
once (`nodup_preorderFrom`), and all that the node reaches (`mem_preorderFrom_iff`).

`Reaches` says that a node can be come to by way of children.
-/

set_option autoImplicit false

namespace SchemaBinding.Model

/-- The place holds a node. -/
def Holds (m : Model) (id : NodeId) : Prop := id.index < m.nodes.size

instance (m : Model) (id : NodeId) : Decidable (m.Holds id) :=
  inferInstanceAs (Decidable (id.index < m.nodes.size))

/-- The way from one node to another by children, of any length. -/
abbrev Reaches (m : Model) : NodeId → NodeId → Prop :=
  Relation.ReflTransGen fun owner child => child ∈ m.children owner

/-! ### Single nodes -/

theorem node_of_not_holds {m : Model} {id : NodeId} (h : ¬ m.Holds id) : m.node id = default := by
  have hsize : m.nodes.size ≤ id.index := Nat.le_of_not_lt h
  simp [node, Array.getD_eq_getD_getElem?, hsize]

theorem children_of_not_holds {m : Model} {id : NodeId} (h : ¬ m.Holds id) : m.children id = [] := by
  rw [children, node_of_not_holds h]
  rfl

theorem node_mem_nodes {m : Model} {id : NodeId} (h : m.Holds id) : m.node id ∈ m.nodes := by
  have hlt : id.index < m.nodes.size := h
  simp [node, Array.getD_eq_getD_getElem?, hlt]

@[simp]
theorem holds_modifyNode (m : Model) (id : NodeId) (f : Node → Node) (x : NodeId) :
    (m.modifyNode id f).Holds x ↔ m.Holds x := by
  simp [Holds, modifyNode]

theorem node_modifyNode (m : Model) (id : NodeId) (f : Node → Node) (x : NodeId) :
    (m.modifyNode id f).node x = if x = id ∧ m.Holds id then f (m.node x) else m.node x := by
  by_cases hheld : m.Holds x
  · have hlt : x.index < m.nodes.size := hheld
    simp only [node, modifyNode, Array.getD_eq_getD_getElem?, Array.getElem?_modify]
    by_cases hx : x = id
    · subst hx
      simp [hheld, hlt]
    · have hindex : id.index ≠ x.index := fun h => hx (congrArg NodeId.mk h.symm)
      simp [hx, hindex]
  · -- Neither model has a node there.
    rw [node_of_not_holds (by simpa using hheld), if_neg ?_, node_of_not_holds hheld]
    rintro ⟨rfl, hid⟩
    exact hheld hid

/-- What a change keeps of every node, it keeps of the nodes of the model. -/
theorem congr_modifyNode {α : Type} {g : Node → α} {f : Node → Node} (hf : ∀ n, g (f n) = g n) (m : Model)
    (id x : NodeId) : g ((m.modifyNode id f).node x) = g (m.node x) := by
  rw [node_modifyNode]
  split
  · exact hf _
  · rfl

theorem node_addNode (m : Model) (n : Node) (x : NodeId) :
    (m.addNode n).node x = if x = m.nextId then n else m.node x := by
  by_cases hx : x = m.nextId
  · subst hx
    simp [node, addNode, nextId, Array.getD_eq_getD_getElem?]
  · have hindex : x.index ≠ m.nodes.size := fun h => hx (congrArg NodeId.mk h)
    rw [if_neg hx]
    simp [node, addNode, Array.getD_eq_getD_getElem?, Array.getElem?_push, hindex]

/-! ### The preorder -/

/-- A walk adds nodes of the model that have not been listed. -/
theorem preorderLoop_eq_append (m : Model) (order work : List NodeId) :
    ∃ added, m.preorderLoop order work = order ++ added ∧ (∀ id ∈ added, m.Holds id) ∧
      (order.Nodup → (order ++ added).Nodup) := by
  fun_induction preorderLoop m order work with
  | case1 order => exact ⟨[], by simp, by simp, by simp⟩
  | case2 order id rest h ih =>
      obtain ⟨added, heq, hheld, hnodup⟩ := ih
      refine ⟨id :: added, by rw [heq, List.append_assoc, List.singleton_append], ?_, ?_⟩
      · intro x hx
        rcases List.mem_cons.mp hx with rfl | hx
        · exact h.2
        · exact hheld x hx
      · intro horder
        have hnew : id ∉ order := by simpa using h.1
        have hfirst : (order ++ [id]).Nodup := by
          rw [List.nodup_append]
          exact ⟨horder, by simp, fun a ha b hb => by simp_all; rintro rfl; exact hnew ha⟩
        simpa using hnodup hfirst
  | case3 order id rest h ih => exact ih

theorem holds_of_mem_preorderFrom {m : Model} {start id : NodeId} (h : id ∈ m.preorderFrom start) : m.Holds id := by
  obtain ⟨added, heq, hheld, -⟩ := m.preorderLoop_eq_append [] [start]
  rw [preorderFrom, heq, List.nil_append] at h
  exact hheld id h

theorem nodup_preorderFrom (m : Model) (start : NodeId) : (m.preorderFrom start).Nodup := by
  obtain ⟨added, heq, -, hnodup⟩ := m.preorderLoop_eq_append [] [start]
  rw [preorderFrom, heq]
  exact hnodup List.nodup_nil

/-- A walk lists what is due, and the children of all that it adds. What it adds is reached from the work. -/
theorem preorderLoop_complete (m : Model) (order work : List NodeId) :
    (∀ id ∈ order, id ∈ m.preorderLoop order work) ∧
      (∀ id ∈ work, m.Holds id → id ∈ m.preorderLoop order work) ∧
      ∀ id ∈ m.preorderLoop order work, id ∉ order →
        (∀ child ∈ m.children id, m.Holds child → child ∈ m.preorderLoop order work) ∧
          ∃ start ∈ work, m.Reaches start id := by
  fun_induction preorderLoop m order work with
  | case1 order => exact ⟨fun _ h => h, fun _ h => absurd h List.not_mem_nil, fun _ h hnew => absurd h hnew⟩
  | case2 order id rest h ih =>
      obtain ⟨horder, hwork, hadded⟩ := ih
      refine ⟨fun x hx => horder x (List.mem_append_left _ hx), ?_, ?_⟩
      · intro x hx hheld
        rcases List.mem_cons.mp hx with rfl | hx
        · exact horder x (List.mem_append_right _ (List.mem_singleton.mpr rfl))
        · exact hwork x (List.mem_append_right _ hx) hheld
      · intro x hx hnew
        by_cases hid : x = id
        · subst hid
          exact ⟨fun child hchild => hwork child (List.mem_append_left _ hchild), x, List.mem_cons_self .., .refl⟩
        · have hother : x ∉ order ++ [id] := by simp [hnew, hid]
          obtain ⟨hchildren, start, hstart, hreach⟩ := hadded x hx hother
          refine ⟨hchildren, ?_⟩
          rcases List.mem_append.mp hstart with hstart | hstart
          · exact ⟨id, List.mem_cons_self .., .head hstart hreach⟩
          · exact ⟨start, List.mem_cons_of_mem _ hstart, hreach⟩
  | case3 order id rest h ih =>
      obtain ⟨horder, hwork, hadded⟩ := ih
      refine ⟨horder, ?_, fun x hx hnew => ?_⟩
      · intro x hx hheld
        rcases List.mem_cons.mp hx with rfl | hx
        · -- The node is passed over because it is listed already.
          have hlisted : x ∈ order := Decidable.byContradiction fun hnew => h ⟨by simpa using hnew, hheld⟩
          exact horder x hlisted
        · exact hwork x hx hheld
      · obtain ⟨hchildren, start, hstart, hreach⟩ := hadded x hx hnew
        exact ⟨hchildren, start, List.mem_cons_of_mem _ hstart, hreach⟩

/-- The preorder of a node lists the nodes that it reaches. -/
theorem mem_preorderFrom_iff {m : Model} {start id : NodeId} :
    id ∈ m.preorderFrom start ↔ m.Reaches start id ∧ m.Holds id := by
  obtain ⟨-, hwork, hadded⟩ := m.preorderLoop_complete [] [start]
  constructor
  · intro h
    obtain ⟨-, x, hx, hreach⟩ := hadded id h List.not_mem_nil
    exact ⟨List.mem_singleton.mp hx ▸ hreach, holds_of_mem_preorderFrom h⟩
  · rintro ⟨hreach, hheld⟩
    induction hreach with
    | refl => exact hwork start (List.mem_singleton.mpr rfl) hheld
    | @tail owner child _ hchild ih =>
        have howner : m.Holds owner := by
          refine Decidable.byContradiction fun hnone => ?_
          rw [children_of_not_holds hnone] at hchild
          cases hchild
        exact (hadded owner (ih howner) List.not_mem_nil).1 child hchild hheld

theorem holds_of_mem_preorder {m : Model} {id : NodeId} (h : id ∈ m.preorder) : m.Holds id :=
  holds_of_mem_preorderFrom h

theorem nodup_preorder (m : Model) : m.preorder.Nodup := m.nodup_preorderFrom root

theorem mem_preorder_iff {m : Model} {id : NodeId} : id ∈ m.preorder ↔ m.Reaches root id ∧ m.Holds id :=
  mem_preorderFrom_iff

/-- Only children count for what is listed. -/
theorem preorderLoop_congr {m m' : Model} (hsize : m'.nodes.size = m.nodes.size)
    (hchildren : ∀ id, m'.children id = m.children id) (order work : List NodeId) :
    m'.preorderLoop order work = m.preorderLoop order work := by
  fun_induction preorderLoop m order work with
  | case1 order => rw [preorderLoop]
  | case2 order id rest h ih =>
      rw [preorderLoop, dif_pos (by rwa [hsize]), hchildren]
      exact ih
  | case3 order id rest h ih =>
      rw [preorderLoop, dif_neg (by rwa [hsize])]
      exact ih

theorem declarations_congr {m m' : Model} (hsize : m'.nodes.size = m.nodes.size)
    (hchildren : ∀ id, m'.children id = m.children id) (hkind : ∀ id, (m'.node id).kind = (m.node id).kind) :
    m'.declarations = m.declarations := by
  unfold declarations preorder preorderFrom
  rw [preorderLoop_congr hsize hchildren]
  simp only [hkind]

theorem mem_declarations_iff {m : Model} {id : NodeId} :
    id ∈ m.declarations ↔
      m.Reaches root id ∧ m.Holds id ∧ (m.node id).kind ≠ .schema ∧ (m.node id).kind ≠ .groupRef := by
  unfold declarations
  rw [List.mem_filter, mem_preorder_iff]
  simp [and_assoc]

theorem holds_of_mem_declarations {m : Model} {id : NodeId} (h : id ∈ m.declarations) : m.Holds id :=
  holds_of_mem_preorder (List.mem_filter.mp h).1

theorem nodup_declarations (m : Model) : m.declarations.Nodup :=
  (nodup_preorder m).filter _

end SchemaBinding.Model
