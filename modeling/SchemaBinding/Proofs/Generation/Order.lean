import SchemaBinding.Proofs.Generation.Fate

/-!
# `SchemaBinding.Proofs.Generation.Order`: the order of declarations does not matter

Two models are `Reordered` when they differ in the order of children alone. Their runs differ: other declarations
wait, the passes are not the same ones, and inner types come up at other times. But the rules of `Fated` do not
mention an order, so they say the same of both models (`Reordered.fated_iff`). Distinct names are needed for that,
because of two declarations of one name the last one counts.

`generate_reorderTopLevel` draws the conclusion for a new order of the top level. The declarations generated,
rejected and unresolved are the same.
-/

set_option autoImplicit false

namespace SchemaBinding

/-- The models have the same nodes, apart from the order of their children, and the same registry. -/
structure Reordered (m m' : Model) : Prop where
  size : m'.nodes.size = m.nodes.size
  node : ∀ id, m'.node id = { m.node id with children := (m'.node id).children }
  children : ∀ id, (m'.node id).children.Perm (m.node id).children
  element? : ∀ name, m'.element? name = m.element? name

namespace Reordered

variable {m m' : Model}

theorem symm (h : Reordered m m') : Reordered m' m where
  size := h.size.symm
  node := by
    intro id
    -- The node of the other model, with the children put back.
    calc m.node id = { ({ m.node id with children := (m'.node id).children } : Node) with
            children := (m.node id).children } := rfl
      _ = { m'.node id with children := (m.node id).children } := by rw [← h.node id]
  children := fun id => (h.children id).symm
  element? := fun name => (h.element? name).symm

/-- What does not depend on the children of a node is the same in both models. -/
theorem congr {α : Type} (h : Reordered m m') {f : Node → α}
    (hf : ∀ n children, f { n with children := children } = f n) (id : NodeId) :
    f (m'.node id) = f (m.node id) := by
  rw [h.node id]
  exact hf _ _

theorem isEmittable_eq (h : Reordered m m') (id : NodeId) : (m'.node id).isEmittable = (m.node id).isEmittable :=
  h.congr (fun _ _ => rfl) id

theorem distinctBy (h : Reordered m m') {key : Node → String}
    (hkey : ∀ n children, key { n with children := children } = key n) (hm : DistinctBy m key) :
    DistinctBy m' key := by
  intro a b ha hb heq
  rw [h.isEmittable_eq] at ha hb
  rw [h.congr hkey a, h.congr hkey b] at heq
  exact hm a b ha hb heq

theorem emittableIds_eq (h : Reordered m m') : emittableIds m' = emittableIds m := by
  unfold emittableIds
  rw [h.size]
  exact List.filter_congr fun id _ => h.isEmittable_eq id

/-! ### The rules in both models -/

theorem mem_topLevel_iff (h : Reordered m m') {id : NodeId} : id ∈ m'.topLevel ↔ id ∈ m.topLevel :=
  (h.children Model.root).mem_iff

/-- With distinct names, a name stands for the same declaration in both models. -/
theorem get?_typesByName_eq (h : Reordered m m') (hname : DistinctBy m Node.name) (name : String) :
    (typesByName m').get? name = (typesByName m).get? name := by
  have hname' : DistinctBy m' Node.name := h.distinctBy (fun _ _ => rfl) hname
  -- In both models, that is the declaration at the top level with this name.
  refine Option.ext fun id => ?_
  rw [hname'.get?_typesByName_iff, hname.get?_typesByName_iff, h.mem_topLevel_iff, h.isEmittable_eq,
    h.congr (f := Node.name) (fun _ _ => rfl)]

theorem parent?_eq (h : Reordered m m') (hname : DistinctBy m Node.name) (id : NodeId) :
    parent? m' id = parent? m id := by
  have htype : generatedType? m' = generatedType? m := by
    funext name
    unfold generatedType?
    rw [h.element? name, h.get?_typesByName_eq hname]
    congr 2
    funext x
    exact h.isEmittable_eq x
  have hbase : (m'.node id).base = (m.node id).base := h.congr (fun _ _ => rfl) id
  have hrestriction : (m'.node id).restrictionBase = (m.node id).restrictionBase := h.congr (fun _ _ => rfl) id
  simp only [parent?, htype, hbase, hrestriction]

/-- What the rules say of a declaration in one model, they say of it in the other. -/
theorem fated (h : Reordered m m') (hname : DistinctBy m Node.name) {fate : Run.Fate} {id : NodeId}
    (hfate : Run.Fated m fate id) : Run.Fated m' fate id := by
  have hname' : DistinctBy m' Node.name := h.distinctBy (fun _ _ => rfl) hname
  have hmixed : ∀ id, (m'.node id).mixedExtensionError = (m.node id).mixedExtensionError :=
    h.congr fun _ _ => rfl
  induction hfate with
  | topLevel hlast =>
      refine .topLevel (hname'.lastOfName_iff.mpr ?_)
      rw [h.mem_topLevel_iff, h.isEmittable_eq]
      exact hname.lastOfName_iff.mp hlast
  | @inner owner id _ hchild he ht ih =>
      refine .inner ih ((h.children owner).mem_iff.mpr hchild) ?_ ?_
      · rw [h.isEmittable_eq, he]
      · rw [h.congr (f := Node.isTopLevel) (fun _ _ => rfl), ht]
  | @generated id _ _ hconsistent ihfound ihready =>
      refine .generated ihfound (fun base hbase => ?_) ((hmixed id).trans hconsistent)
      rw [h.parent?_eq hname] at hbase
      exact ihready base hbase
  | @mixed id _ _ hinconsistent ihfound ihready =>
      refine .mixed ihfound (fun base hbase => ?_) ((hmixed id).trans hinconsistent)
      rw [h.parent?_eq hname] at hbase
      exact ihready base hbase
  | @base id base _ hbase _ ihfound ihbase =>
      refine .base ihfound ?_ ihbase
      rw [h.parent?_eq hname, hbase]

theorem fated_iff (h : Reordered m m') (hname : DistinctBy m Node.name) {fate : Run.Fate} {id : NodeId} :
    Run.Fated m' fate id ↔ Run.Fated m fate id :=
  ⟨h.symm.fated (h.distinctBy (fun _ _ => rfl) hname), h.fated hname⟩

end Reordered

/-! ### The top level in another order -/

/-- The model with other children of the root. -/
def reorderTopLevel (m : Model) (order : List NodeId) : Model :=
  m.modifyNode Model.root fun n => { n with children := order }

theorem node_reorderTopLevel (m : Model) (order : List NodeId) (id : NodeId) :
    (reorderTopLevel m order).node id = m.node id ∨
      id = Model.root ∧ (reorderTopLevel m order).node id = { m.node id with children := order } := by
  unfold reorderTopLevel Model.modifyNode Model.node
  simp only [Array.getD_eq_getD_getElem?, Array.getElem?_modify]
  split
  · rename_i hroot
    have hid : id = Model.root := congrArg NodeId.mk hroot.symm
    -- A model without any node has no root to change.
    cases hnode : m.nodes[id.index]? with
    | none => exact Or.inl rfl
    | some n => exact Or.inr ⟨hid, rfl⟩
  · exact Or.inl rfl

theorem reordered_reorderTopLevel {m : Model} {order : List NodeId} (hperm : order.Perm m.topLevel) :
    Reordered m (reorderTopLevel m order) where
  size := by simp [reorderTopLevel, Model.modifyNode]
  node := by
    intro id
    rcases node_reorderTopLevel m order id with heq | ⟨-, heq⟩
    · rw [heq]
    · rw [heq]
  children := by
    intro id
    rcases node_reorderTopLevel m order id with heq | ⟨rfl, heq⟩
    · rw [heq]
    · rw [heq]
      exact hperm
  element? := fun _ => rfl

namespace Run

/-- The order of the top level does not decide what becomes of a declaration. If the names and the clean names of
the emittable declarations are distinct, and there are no more of them than a drain may make passes, then any order
of the top level leads to the same emitted names, to the same rejected names and to the same unresolved entries. -/
theorem generate_reorderTopLevel (m : Model) (config : Config) {order : List NodeId}
    (hcount : (emittableIds m).length ≤ maxDrainCycles) (hname : DistinctBy m Node.name)
    (hclean : DistinctBy m Node.cleanName) (hperm : order.Perm m.topLevel) :
    (∀ name, name ∈ (generate config (reorderTopLevel m order)).report.emitted ↔
        name ∈ (generate config m).report.emitted) ∧
      (∀ name, name ∈ (generate config (reorderTopLevel m order)).report.rejected ↔
        name ∈ (generate config m).report.rejected) ∧
      ∀ entry, entry ∈ (generate config (reorderTopLevel m order)).report.unresolved ↔
        entry ∈ (generate config m).report.unresolved := by
  have h : Reordered m (reorderTopLevel m order) := reordered_reorderTopLevel hperm
  have hclean' : DistinctBy (reorderTopLevel m order) Node.cleanName := h.distinctBy (fun _ _ => rfl) hclean
  have hquiet : Quiet m (atRest m config) := quiet_atRest fun s hs => hs.length_postponed_le.trans hcount
  have hquiet' : Quiet (reorderTopLevel m order) (atRest (reorderTopLevel m order) config) := by
    refine quiet_atRest fun s hs => hs.length_postponed_le.trans ?_
    rw [h.emittableIds_eq]
    exact hcount
  have hcleanName : ∀ id, ((reorderTopLevel m order).node id).cleanName = (m.node id).cleanName :=
    h.congr fun _ _ => rfl
  have hentry : ∀ id, unresolvedEntry (reorderTopLevel m order) id = unresolvedEntry m id :=
    h.congr (f := fun n => (n.cleanName, (n.base.or n.restrictionBase).getD "")) fun _ _ => rfl
  refine ⟨?_, ?_, ?_⟩
  · intro name
    rw [mem_emitted_iff hclean' hquiet', mem_emitted_iff hclean hquiet]
    simp only [h.fated_iff hname, hcleanName]
  · intro name
    rw [mem_rejected_iff hclean' hquiet', mem_rejected_iff hclean hquiet]
    simp only [h.fated_iff hname, hcleanName]
  · intro entry
    rw [mem_unresolved_iff hclean' hquiet', mem_unresolved_iff hclean hquiet]
    simp only [h.fated_iff hname, hentry]

/-- A schema whose types come before their bases. `B` derives from `A`. `D` is inconsistent, and `C` derives from
it. `E` and `F` derive from each other. -/
def basesLast : Model where
  nodes := #[{ Node.ofKind .schema "schema" with children := [⟨1⟩, ⟨2⟩, ⟨3⟩, ⟨4⟩, ⟨5⟩, ⟨6⟩] },
    topLevelType "B" (some "A"), topLevelType "C" (some "D"), topLevelType "E" (some "F"),
    topLevelType "A" none, { topLevelType "D" none with mixedExtensionError := true }, topLevelType "F" (some "E")]

theorem generate_reorderTopLevel_basesLast :
    (emittableIds basesLast).length ≤ maxDrainCycles ∧ DistinctBy basesLast Node.name ∧
      DistinctBy basesLast Node.cleanName ∧ basesLast.topLevel.reverse.Perm basesLast.topLevel ∧
      (∀ name, name ∈ (generate {} (reorderTopLevel basesLast basesLast.topLevel.reverse)).report.emitted ↔
        name ∈ (generate {} basesLast).report.emitted) ∧
      (∀ name, name ∈ (generate {} (reorderTopLevel basesLast basesLast.topLevel.reverse)).report.rejected ↔
        name ∈ (generate {} basesLast).report.rejected) ∧
      ∀ entry, entry ∈ (generate {} (reorderTopLevel basesLast basesLast.topLevel.reverse)).report.unresolved ↔
        entry ∈ (generate {} basesLast).report.unresolved := by
  have hcount : (emittableIds basesLast).length ≤ maxDrainCycles := by decide
  have hname : DistinctBy basesLast Node.name := by decide
  have hclean : DistinctBy basesLast Node.cleanName := by decide
  have hperm : basesLast.topLevel.reverse.Perm basesLast.topLevel := List.reverse_perm _
  exact ⟨hcount, hname, hclean, hperm, generate_reorderTopLevel basesLast {} hcount hname hclean hperm⟩

end Run

end SchemaBinding
