import SchemaBinding.Proofs.Model

/-!
# `SchemaBinding.Proofs.Preorder`: the work list against the recursion

`Model.preorderFrom` keeps the nodes that are due on a work list, where one node may stand several times, and marks a node
when it comes off the list. `Model.depthFirst` is the recursion that this stands for: it lists a node that is new and then
goes through its children from left to right.

The recursion ends because every call below a node begins with a longer list. That the list only grows is part of the
result of a call, so the definition carries it (`Model.depthFirstAfter`), and `Model.depthFirst_eq` leaves it out again.

* `Model.preorderLoop_eq_foldl`: the loop visits what is due, one after the other, by the recursion.
* `Model.parentsFirst_preorderFrom`: all but the first node come after one of their parents.
* `Model.preorderFrom_isDepthFirst`: the preorder is that of the recursion, and what it lists in which order.
-/

set_option autoImplicit false

namespace SchemaBinding.Model

/-! ### The recursion -/

/-- A longer list leaves no more places unlisted. -/
theorem unlisted_antitone {m : Model} {listed after : List NodeId} (h : listed <+: after) :
    m.unlisted after ≤ m.unlisted listed := by
  unfold unlisted
  rw [← List.countP_eq_length_filter, ← List.countP_eq_length_filter]
  refine List.countP_mono_left fun i _ hi => ?_
  have hnew : (⟨i⟩ : NodeId) ∉ after := by simpa using hi
  have hbefore : (⟨i⟩ : NodeId) ∉ listed := fun hmem => hnew (h.subset hmem)
  simpa using hbefore

/-- What is listed after a visit to a node, which begins with what was listed before. -/
def depthFirstAfter (m : Model) (listed : List NodeId) (id : NodeId) :
    { after : List NodeId // listed <+: after } :=
  if _h : id ∉ listed ∧ m.Holds id then
    let entered : { after : List NodeId // listed ++ [id] <+: after } := ⟨listed ++ [id], List.prefix_rfl⟩
    let left := (m.children id).foldl
      (fun current child =>
        let next := depthFirstAfter m current.1 child
        ⟨next.1, current.2.trans next.2⟩) entered
    ⟨left.1, (List.prefix_append listed [id]).trans left.2⟩
  else ⟨listed, List.prefix_rfl⟩
  termination_by m.unlisted listed
  decreasing_by
    have hnew : listed.contains id = false := by simpa using _h.1
    exact Nat.lt_of_le_of_lt (unlisted_antitone current.2) (unlisted_concat_lt hnew _h.2)

/-- The depth-first preorder behind a list: a node that is listed already is passed over. -/
def depthFirst (m : Model) (listed : List NodeId) (id : NodeId) : List NodeId :=
  (m.depthFirstAfter listed id).1

/-- A new node is listed, and then its children are visited from left to right. -/
theorem depthFirst_eq (m : Model) (listed : List NodeId) (id : NodeId) :
    m.depthFirst listed id =
      if id ∉ listed ∧ m.Holds id then (m.children id).foldl m.depthFirst (listed ++ [id]) else listed := by
  unfold depthFirst
  rw [depthFirstAfter]
  split
  · exact (List.foldl_hom Subtype.val fun _ _ => rfl).symm
  · rfl

/-- The children of a node stand in front of what was due before, so they are done first. -/
theorem preorderLoop_eq_foldl (m : Model) (order work : List NodeId) :
    m.preorderLoop order work = work.foldl m.depthFirst order := by
  fun_induction preorderLoop m order work with
  | case1 order => rfl
  | case2 order id rest h ih =>
      have hvisit : id ∉ order ∧ m.Holds id := ⟨by simpa using h.1, h.2⟩
      rw [ih, List.foldl_append, List.foldl_cons, depthFirst_eq, if_pos hvisit]
  | case3 order id rest h ih =>
      have hskip : ¬ (id ∉ order ∧ m.Holds id) := fun hvisit => h ⟨by simpa using hvisit.1, hvisit.2⟩
      rw [ih, List.foldl_cons, depthFirst_eq, if_neg hskip]

/-! ### Parents before children -/

/-- All listed nodes but `start` come after one of their parents. -/
def ParentsFirst (m : Model) (start : NodeId) (order : List NodeId) : Prop :=
  ∀ before id, before ++ [id] <+: order → id ≠ start → ∃ parent ∈ before, id ∈ m.children parent

theorem ParentsFirst.concat {m : Model} {start id : NodeId} {order : List NodeId} (h : m.ParentsFirst start order)
    (hid : id ≠ start → ∃ parent ∈ order, id ∈ m.children parent) : m.ParentsFirst start (order ++ [id]) := by
  intro before x hprefix hne
  rcases List.prefix_concat_iff.mp hprefix with heq | hprefix
  · -- The last place is that of the new node.
    obtain ⟨rfl, hx⟩ := List.append_inj' heq rfl
    obtain rfl := List.singleton_inj.mp hx
    exact hid hne
  · exact h before x hprefix hne

/-- A node that is due has a parent among those listed, since it became due when that parent was listed. -/
theorem parentsFirst_preorderLoop {m : Model} {start : NodeId} {order work : List NodeId}
    (horder : m.ParentsFirst start order)
    (hwork : ∀ id ∈ work, id ≠ start → ∃ parent ∈ order, id ∈ m.children parent) :
    m.ParentsFirst start (m.preorderLoop order work) := by
  fun_induction preorderLoop m order work with
  | case1 order => exact horder
  | case2 order id rest h ih =>
      have hlisted : m.ParentsFirst start (order ++ [id]) := horder.concat (hwork id List.mem_cons_self)
      refine ih hlisted fun x hx hne => ?_
      rcases List.mem_append.mp hx with hchild | hrest
      · exact ⟨id, List.mem_append_right _ (List.mem_singleton.mpr rfl), hchild⟩
      · obtain ⟨parent, hparent, hchild⟩ := hwork x (List.mem_cons_of_mem _ hrest) hne
        exact ⟨parent, List.mem_append_left _ hparent, hchild⟩
  | case3 order id rest h ih => exact ih horder fun x hx => hwork x (List.mem_cons_of_mem _ hx)

theorem parentsFirst_preorderFrom (m : Model) (start : NodeId) : m.ParentsFirst start (m.preorderFrom start) := by
  refine parentsFirst_preorderLoop (fun before id hprefix => ?_) fun id hid hne => ?_
  · simp at hprefix
  · exact absurd (List.mem_singleton.mp hid) hne

/-! ### The preorder of a node -/

theorem head?_preorderFrom {m : Model} {start : NodeId} (h : m.Holds start) :
    (m.preorderFrom start).head? = some start := by
  have hvisit : ([] : List NodeId).contains start = false ∧ start.index < m.nodes.size := ⟨rfl, h⟩
  rw [preorderFrom, preorderLoop, dif_pos hvisit]
  obtain ⟨added, heq, -⟩ := m.preorderLoop_eq_append ([] ++ [start]) (m.children start ++ [])
  rw [heq]
  rfl

/-- The preorder of a node is the one that the recursion gives, on every graph. It lists what the node reaches, each node
once, with the node itself in front and all others after one of their parents. -/
theorem preorderFrom_isDepthFirst (m : Model) (start : NodeId) :
    m.preorderFrom start = m.depthFirst [] start ∧
      (∀ id, id ∈ m.preorderFrom start ↔ m.Reaches start id ∧ m.Holds id) ∧
      (m.preorderFrom start).Nodup ∧
      (m.Holds start → (m.preorderFrom start).head? = some start) ∧
      m.ParentsFirst start (m.preorderFrom start) :=
  ⟨m.preorderLoop_eq_foldl [] [start], fun _ => mem_preorderFrom_iff, m.nodup_preorderFrom start,
    head?_preorderFrom, m.parentsFirst_preorderFrom start⟩

/-- `a` and `b` share a child, and that child has `a` as a child of its own. -/
def sharedChild : Model where
  nodes := #[{ Node.ofKind .schema "schema" with children := [⟨1⟩, ⟨2⟩] },
    { Node.ofKind .element "a" with children := [⟨3⟩] },
    { Node.ofKind .element "b" with children := [⟨3⟩] },
    { Node.ofKind .element "shared" with children := [⟨1⟩] }]

example : sharedChild.preorder = [⟨0⟩, ⟨1⟩, ⟨3⟩, ⟨2⟩] := by cbv

end SchemaBinding.Model
