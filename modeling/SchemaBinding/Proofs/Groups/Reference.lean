import Mathlib.Data.List.Chain
import Mathlib.Data.List.Perm.Subperm
import SchemaBinding.Proofs.Model
import SchemaBinding.Proofs.Table
import SchemaBinding.Resolve.GroupContent

/-!
# `SchemaBinding.Proofs.Groups.Reference`: which group refers to which

A group `Refers` to another one when a reference to that one stands among the particles of its definition. The groups
on a cycle of references refer to themselves over some steps (`OnCycle`). A group that `ReachesNoCycle` has finitely
deep content: all groups that it refers to reach no cycle either, and that is enough
(`reachesNoCycle_of_targets`).

A few groups never nest too deep, since a path of references that does not come back goes to each group once
(`fitsDepth_of_size_le`).
-/

set_option autoImplicit false

namespace SchemaBinding

open Relation (TransGen ReflTransGen)

/-- A group has a definition. -/
def IsDeclared (m : Model) (name : String) : Prop := m.symbols.elementGroups.Has name

/-- A group has a definition, or some node refers to it. -/
def IsGroupName (m : Model) (name : String) : Prop :=
  IsDeclared m name ∨ ∃ id, (m.node id).referencedGroup? = some name

/-- What holds of the references that a model has holds of each place. A place without a node is no reference. -/
theorem forall_referencedGroup? {m : Model} {P : String → Prop}
    (h : ∀ n ∈ m.nodes.toList, ∀ name ∈ n.referencedGroup?, P name) {id : NodeId} {name : String}
    (hname : (m.node id).referencedGroup? = some name) : P name := by
  by_cases hheld : m.Holds id
  · exact h _ (Array.mem_toList_iff.mpr (Model.node_mem_nodes hheld)) name hname
  · rw [Model.node_of_not_holds hheld] at hname
    cases hname

/-- The definition of a group has a reference to another one among its particles. -/
def Refers (m : Model) (name target : String) : Prop :=
  ∃ id, m.symbols.elementGroups.get? name = some id ∧
    ∃ child ∈ m.children id, (m.node child).referencedGroup? = some target

/-- References lead from a group back to it. -/
def OnCycle (m : Model) (name : String) : Prop := TransGen (Refers m) name name

/-- No references from a group lead into a cycle. -/
def ReachesNoCycle (m : Model) (name : String) : Prop := ∀ x, ReflTransGen (Refers m) name x → ¬ OnCycle m x

theorem Refers.isDeclared {m : Model} {name target : String} (h : Refers m name target) : IsDeclared m name := by
  obtain ⟨id, hid, -⟩ := h
  exact ⟨id, hid⟩

theorem OnCycle.isDeclared {m : Model} {name : String} (h : OnCycle m name) : IsDeclared m name := by
  obtain ⟨target, hfirst, -⟩ := TransGen.head'_iff.mp h
  exact hfirst.isDeclared

/-- A group that is not declared refers to nothing. -/
theorem reachesNoCycle_of_not_isDeclared {m : Model} {name : String} (h : ¬ IsDeclared m name) :
    ReachesNoCycle m name := by
  intro x hx hcycle
  rcases ReflTransGen.cases_head hx with rfl | ⟨target, hfirst, -⟩
  · exact h hcycle.isDeclared
  · exact h hfirst.isDeclared

theorem ReachesNoCycle.target {m : Model} {name target : String} (h : ReachesNoCycle m name)
    (href : Refers m name target) : ReachesNoCycle m target :=
  fun x hx => h x (.head href hx)

/-- A group reaches no cycle if none of the groups it refers to does. -/
theorem reachesNoCycle_of_targets {m : Model} {name : String}
    (h : ∀ target, Refers m name target → ReachesNoCycle m target) : ReachesNoCycle m name := by
  intro x hx hcycle
  rcases ReflTransGen.cases_head hx with rfl | ⟨target, hfirst, hrest⟩
  · -- The cycle leaves the group by one of its own references.
    obtain ⟨target, hfirst, hback⟩ := TransGen.head'_iff.mp hcycle
    exact h target hfirst name hback hcycle
  · exact h target hfirst x hrest hcycle

/-- On the way along a path of references, the last group is reached from each of the others. -/
theorem transGen_of_isChain {m : Model} {path : List String} {name : String}
    (h : (path ++ [name]).IsChain (Refers m)) {x : String} (hx : x ∈ path) : TransGen (Refers m) x name := by
  induction path generalizing x with
  | nil => cases hx
  | cons first rest ih =>
      rw [List.cons_append, List.isChain_cons] at h
      obtain ⟨hfirst, hrest⟩ := h
      rcases List.mem_cons.mp hx with rfl | hx
      · cases rest with
        | nil => exact .single (hfirst name (by simp))
        | cons second rest => exact .head (hfirst second (by simp)) (ih hrest (by simp))
      · exact ih hrest hx

/-- All groups that a path of references leaves again are declared. -/
theorem isDeclared_of_isChain {m : Model} {path : List String} {name : String}
    (h : (path ++ [name]).IsChain (Refers m)) {x : String} (hx : x ∈ path) : IsDeclared m x := by
  obtain ⟨target, hfirst, -⟩ := TransGen.head'_iff.mp (transGen_of_isChain h hx)
  exact hfirst.isDeclared

/-! ### The references as a list -/

/-- All pairs of a group and a group that it refers to. -/
def groupReferences (m : Model) : List (String × String) :=
  m.symbols.elementGroups.keys.flatMap fun name =>
    ((m.symbols.elementGroups.get? name).elim [] m.children).filterMap fun child =>
      ((m.node child).referencedGroup?).map (name, ·)

theorem refers_iff_mem_groupReferences {m : Model} {name target : String} :
    Refers m name target ↔ (name, target) ∈ groupReferences m := by
  simp only [groupReferences, List.mem_flatMap, List.mem_filterMap, Option.map_eq_some_iff, Prod.mk.injEq]
  constructor
  · rintro ⟨id, hid, child, hchild, htarget⟩
    exact ⟨name, Table.has_iff_mem_keys.mp ⟨id, hid⟩, child, by rwa [hid], target, htarget, rfl, rfl⟩
  · rintro ⟨_, hname, child, hchild, _, htarget, rfl, rfl⟩
    obtain ⟨id, hid⟩ := Table.has_iff_mem_keys.mpr hname
    rw [hid] at hchild
    exact ⟨id, hid, child, hchild, htarget⟩

section
variable {m : Model} (rank : String → Nat) (hrank : ∀ edge ∈ groupReferences m, rank edge.2 < rank edge.1)
include hrank

/-- Where references lead to lower ranks only, no group is on a cycle. -/
theorem not_onCycle_of_rank (name : String) : ¬ OnCycle m name := by
  have hlt : ∀ target, TransGen (Refers m) name target → rank target < rank name := by
    intro target h
    induction h with
    | single h => exact hrank _ (refers_iff_mem_groupReferences.mp h)
    | tail _ h ih => exact lt_trans (hrank _ (refers_iff_mem_groupReferences.mp h)) ih
  exact fun h => lt_irrefl _ (hlt name h)

/-- A path of references is no longer than the ranks allow. -/
theorem length_le_of_rank (bound : Nat) (hbound : ∀ name, rank name < bound) {path : List String}
    (h : path.IsChain (Refers m)) : path.length ≤ bound := by
  have hhead : ∀ first rest, (first :: rest).IsChain (Refers m) → rest.length ≤ rank first := by
    intro first rest hchain
    induction rest generalizing first with
    | nil => exact Nat.zero_le _
    | cons second rest ih =>
        rw [List.isChain_cons_cons] at hchain
        have hlt := hrank _ (refers_iff_mem_groupReferences.mp hchain.1)
        exact lt_of_le_of_lt (ih second hchain.2) hlt
  cases path with
  | nil => exact Nat.zero_le _
  | cons first rest => exact lt_of_le_of_lt (hhead first rest h) (hbound first)

end

/-! ### How deep groups nest -/

/-- No path of references goes through more groups than may nest. -/
def FitsDepth (m : Model) : Prop :=
  ∀ path : List String, path.Nodup → path.IsChain (Refers m) → (∀ x ∈ path, IsDeclared m x) →
    path.length ≤ maxGroupDepth

/-- A few groups cannot nest too deep. -/
theorem fitsDepth_of_size_le {m : Model} (h : m.symbols.elementGroups.size ≤ maxGroupDepth) : FitsDepth m := by
  intro path hnodup _ hdeclared
  have hsubset : path ⊆ m.symbols.elementGroups.keys := fun x hx => Table.has_iff_mem_keys.mp (hdeclared x hx)
  calc path.length ≤ m.symbols.elementGroups.keys.length := (List.subperm_of_subset hnodup hsubset).length_le
    _ = m.symbols.elementGroups.size := List.length_map _
    _ ≤ maxGroupDepth := h

end SchemaBinding
