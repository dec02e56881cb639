import Mathlib.Data.List.Chain
import Mathlib.Data.List.Nodup
import SchemaBinding.Proofs.Trail
import SchemaBinding.Resolve.ExtensionChain

/-!
# `SchemaBinding.Proofs.Resolve.ExtensionChains`: the walk that a chain of bases stands for

The chain of a node is cut by one test that stands for two things: the next base is in the chain already, or the chain has
come to its greatest length. `Model.baseAt?` is the walk without a limit, `Model.BasesReturn` and `Model.BasesExceed` say
about that walk alone that it goes round in a circle and that it comes to too many nodes.

* `Model.FollowsBases`: what every chain is while it grows, a piece of the walk without repetition.
* `Model.extendChain_stops`: a chain that grew keeps this, and it stops for one of the reasons of `Model.Stops`.
* `Model.extensionChain_follows`: what a chain is, and that it is cut for exactly these two reasons.
-/

set_option autoImplicit false

namespace SchemaBinding.Model

/-! ### Bases without a limit -/

/-- What is come to from a node by following registered bases for so many steps. -/
def baseAt? (m : Model) (id : NodeId) (steps : Nat) : Option NodeId :=
  Trail.at? m.registeredBase? (some id) steps

/-- Following the bases of a node comes to some node a second time. -/
def BasesReturn (m : Model) (id : NodeId) : Prop :=
  ∃ i j x, i < j ∧ m.baseAt? id i = some x ∧ m.baseAt? id j = some x

/-- Following the bases of a node comes to more than so many different nodes. -/
def BasesExceed (m : Model) (id : NodeId) (count : Nat) : Prop :=
  ∃ visited : List NodeId, visited.Nodup ∧ count < visited.length ∧ ∀ x ∈ visited, ∃ k, m.baseAt? id k = some x

/-- The nodes begin with `id`, each next one is the registered base of the one before, and none comes twice. -/
structure FollowsBases (m : Model) (id : NodeId) (nodes : List NodeId) : Prop where
  head : nodes.head? = some id
  linked : nodes.IsChain fun x base => m.registeredBase? x = some base
  nodup : nodes.Nodup

namespace FollowsBases

variable {m : Model} {id last base : NodeId} {nodes : List NodeId}

theorem singleton (m : Model) (id : NodeId) : m.FollowsBases id [id] where
  head := rfl
  linked := .singleton id
  nodup := List.nodup_singleton id

/-- A base that is new may be added. -/
theorem concat (h : m.FollowsBases id nodes) (hlast : nodes.getLast? = some last)
    (hbase : m.registeredBase? last = some base) (hnew : base ∉ nodes) : m.FollowsBases id (nodes ++ [base]) where
  head := by rw [List.head?_append, h.head, Option.some_or]
  linked := by
    refine List.isChain_append.mpr ⟨h.linked, .singleton base, fun x hx y hy => ?_⟩
    rw [hlast, Option.mem_some_iff] at hx
    rw [List.head?_singleton, Option.mem_some_iff] at hy
    rw [← hx, ← hy]
    exact hbase
  nodup := by
    rw [← List.concat_eq_append, List.nodup_concat]
    exact ⟨hnew, h.nodup⟩

/-- The nodes are what is come to step by step. -/
theorem baseAt?_eq (h : m.FollowsBases id nodes) {k : Nat} (hk : k < nodes.length) :
    m.baseAt? id k = some nodes[k] := by
  induction k with
  | zero =>
      have hfirst : nodes[0]? = some id := List.head?_eq_getElem?.symm.trans h.head
      rw [List.getElem?_eq_getElem hk] at hfirst
      exact hfirst.symm
  | succ k ih =>
      show (m.baseAt? id k).bind m.registeredBase? = some nodes[k + 1]
      rw [ih (Nat.lt_of_succ_lt hk), Option.bind_some]
      exact h.linked.getElem k hk

theorem exists_baseAt?_of_mem (h : m.FollowsBases id nodes) {x : NodeId} (hx : x ∈ nodes) :
    ∃ k < nodes.length, m.baseAt? id k = some x := by
  obtain ⟨k, hk, rfl⟩ := List.getElem_of_mem hx
  exact ⟨k, hk, h.baseAt?_eq hk⟩

/-- What is come to after the last node. -/
theorem baseAt?_length (h : m.FollowsBases id nodes) (hlast : nodes.getLast? = some last) :
    m.baseAt? id nodes.length = m.registeredBase? last := by
  obtain ⟨front, rfl⟩ := List.getLast?_eq_some_iff.mp hlast
  have hlength : (front ++ [last]).length = front.length + 1 := by simp
  have hplace : m.baseAt? id front.length = some last := by
    rw [h.baseAt?_eq (by omega)]
    simp
  rw [hlength]
  show (m.baseAt? id front.length).bind m.registeredBase? = m.registeredBase? last
  rw [hplace, Option.bind_some]

/-- Where the last node has no registered base, nothing else is come to. -/
theorem mem_of_baseAt? (h : m.FollowsBases id nodes) (hlast : nodes.getLast? = some last)
    (hend : m.registeredBase? last = none) {k : Nat} {x : NodeId} (hx : m.baseAt? id k = some x) :
    ∃ hk : k < nodes.length, nodes[k] = x := by
  have hnone : m.baseAt? id nodes.length = none := (h.baseAt?_length hlast).trans hend
  have hk : k < nodes.length := by
    refine Nat.lt_of_not_le fun hle => ?_
    rw [baseAt?, Trail.at?_eq_none_of_le hle hnone] at hx
    cases hx
  rw [h.baseAt?_eq hk] at hx
  exact ⟨hk, Option.some.inj hx⟩

end FollowsBases

/-! ### Where a chain stops -/

/-- A chain stops at a node without a registered base. It is cut where that base is in it already, or where it has come
to its greatest length. -/
inductive Stops (m : Model) (limit : Nat) : ExtensionChain → Prop where
  | ends {nodes : List NodeId} {last : NodeId} (hlast : nodes.getLast? = some last)
      (hend : m.registeredBase? last = none) : Stops m limit ⟨nodes, true⟩
  | cut {nodes : List NodeId} {last base : NodeId} (hlast : nodes.getLast? = some last)
      (hbase : m.registeredBase? last = some base) (hcut : base ∈ nodes ∨ nodes.length = limit) :
      Stops m limit ⟨nodes, false⟩

/-- The room that is left and the nodes that the chain has make up the greatest length together. -/
theorem extendChain_stops {m : Model} {start id : NodeId} {chain : List NodeId} (room : Nat)
    (h : m.FollowsBases start chain) (hlast : chain.getLast? = some id) :
    m.FollowsBases start (m.extendChain room chain id).nodes ∧
      (m.extendChain room chain id).nodes.length ≤ chain.length + room ∧
      m.Stops (chain.length + room) (m.extendChain room chain id) := by
  fun_induction extendChain m room chain id with
  | case1 room chain id hend => exact ⟨h, Nat.le_add_right _ _, .ends hlast hend⟩
  | case2 room chain id base hbase hmem =>
      exact ⟨h, Nat.le_add_right _ _, .cut hlast hbase (.inl (by simpa using hmem))⟩
  | case3 chain id base hbase hnew => exact ⟨h, Nat.le_refl _, .cut hlast hbase (.inr rfl)⟩
  | case4 chain id base hbase hnew room ih =>
      have hlonger : m.FollowsBases start (chain ++ [base]) := h.concat hlast hbase (by simpa using hnew)
      have hlimit : (chain ++ [base]).length + room = chain.length + (room + 1) := by
        rw [List.length_append, List.length_singleton]
        omega
      rw [← hlimit]
      exact ih hlonger List.getLast?_concat

theorem extensionChain_stops (m : Model) (id : NodeId) :
    m.FollowsBases id (m.extensionChain id).nodes ∧ (m.extensionChain id).nodes.length ≤ maxExtensionDepth + 1 ∧
      m.Stops (maxExtensionDepth + 1) (m.extensionChain id) := by
  obtain ⟨hfollows, hlength, hstops⟩ := extendChain_stops maxExtensionDepth (.singleton m id) rfl
  have hlimit : [id].length + maxExtensionDepth = maxExtensionDepth + 1 := Nat.add_comm ..
  rw [hlimit] at hlength hstops
  exact ⟨hfollows, hlength, hstops⟩

/-- A chain that is cut goes round in a circle or is too long. -/
theorem FollowsBases.return_or_exceed {m : Model} {id last base : NodeId} {nodes : List NodeId} {limit : Nat}
    (h : m.FollowsBases id nodes) (hlast : nodes.getLast? = some last) (hbase : m.registeredBase? last = some base)
    (hcut : base ∈ nodes ∨ nodes.length = limit) : m.BasesReturn id ∨ m.BasesExceed id limit := by
  by_cases hmem : base ∈ nodes
  · -- The walk has been at the base before, and comes to it again after the last node.
    obtain ⟨i, hi, hplace⟩ := h.exists_baseAt?_of_mem hmem
    exact .inl ⟨i, nodes.length, base, hi, hplace, (h.baseAt?_length hlast).trans hbase⟩
  · -- The chain has its greatest length, and the base is one node more.
    have hlonger : m.FollowsBases id (nodes ++ [base]) := h.concat hlast hbase hmem
    have hlength : nodes.length = limit := hcut.resolve_left hmem
    refine .inr ⟨nodes ++ [base], hlonger.nodup, ?_, fun x hx => ?_⟩
    · rw [List.length_append, hlength]
      exact Nat.lt_succ_self limit
    · obtain ⟨k, -, hk⟩ := hlonger.exists_baseAt?_of_mem hx
      exact ⟨k, hk⟩

/-- A chain that comes to an end has no circle in it and is short enough. -/
theorem FollowsBases.not_return_or_exceed {m : Model} {id last : NodeId} {nodes : List NodeId} {limit : Nat}
    (h : m.FollowsBases id nodes) (hlast : nodes.getLast? = some last) (hend : m.registeredBase? last = none)
    (hlength : nodes.length ≤ limit) : ¬ (m.BasesReturn id ∨ m.BasesExceed id limit) := by
  rintro (⟨i, j, x, hlt, hi, hj⟩ | ⟨visited, hnodup, hmore, hvisited⟩)
  · -- Both visits would be places of the chain, which has no node twice.
    obtain ⟨hi', hix⟩ := h.mem_of_baseAt? hlast hend hi
    obtain ⟨hj', hjx⟩ := h.mem_of_baseAt? hlast hend hj
    have hsame : i = j := h.nodup.getElem_inj_iff.mp (hix.trans hjx.symm)
    omega
  · have hsubset : visited ⊆ nodes := by
      intro x hx
      obtain ⟨k, hk⟩ := hvisited x hx
      obtain ⟨hk', rfl⟩ := h.mem_of_baseAt? hlast hend hk
      exact List.getElem_mem hk'
    have hfewer : visited.length ≤ nodes.length := hnodup.length_le_of_subset hsubset
    omega

/-- The chain of a node begins with it, goes from base to base without a repetition and has at most 101 nodes, as the
beginning of the walk along the bases. It is complete if and only if its last node has no registered base. It is cut if and
only if the walk goes round in a circle or comes to more than 101 different nodes. -/
theorem extensionChain_follows (m : Model) (id : NodeId) :
    let chain := m.extensionChain id
    m.FollowsBases id chain.nodes ∧ chain.nodes.length ≤ 101 ∧
      (∀ k x, chain.nodes[k]? = some x → m.baseAt? id k = some x) ∧
      (chain.isComplete = true ↔ ∃ last, chain.nodes.getLast? = some last ∧ m.registeredBase? last = none) ∧
      (chain.isComplete = false ↔ m.BasesReturn id ∨ m.BasesExceed id 101) := by
  intro chain
  obtain ⟨hfollows, hlength, hstops⟩ := m.extensionChain_stops id
  refine ⟨hfollows, hlength, fun k x hx => ?_, ?_⟩
  · obtain ⟨hk, rfl⟩ := List.getElem?_eq_some_iff.mp hx
    exact hfollows.baseAt?_eq hk
  change m.Stops 101 chain at hstops
  change m.FollowsBases id chain.nodes at hfollows
  change chain.nodes.length ≤ 101 at hlength
  generalize chain = c at hfollows hlength hstops
  cases hstops with
  | @ends nodes last hlast hend =>
      exact ⟨iff_of_true rfl ⟨last, hlast, hend⟩,
        iff_of_false nofun (hfollows.not_return_or_exceed hlast hend hlength)⟩
  | @cut nodes last base hlast hbase hcut =>
      refine ⟨iff_of_false nofun ?_, iff_of_true rfl (hfollows.return_or_exceed hlast hbase hcut)⟩
      rintro ⟨other, hother, hend⟩
      obtain rfl := Option.some.inj (hlast.symm.trans hother)
      cases hbase.symm.trans hend

/-- Two declarations that extend each other. -/
def extendEachOther : Model where
  nodes := #[{ Node.ofKind .schema "schema" with children := [⟨1⟩, ⟨2⟩] },
    { Node.ofKind .complexType "A" with base := some "B" },
    { Node.ofKind .complexType "B" with base := some "A" }]
  symbols := { elements := .ofList [("A", ⟨1⟩), ("B", ⟨2⟩)] }

example : extendEachOther.extensionChain ⟨1⟩ = ⟨[⟨1⟩, ⟨2⟩], false⟩ := by decide

end SchemaBinding.Model
