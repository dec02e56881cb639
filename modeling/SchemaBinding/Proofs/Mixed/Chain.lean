import Mathlib.Order.Bounds.Basic
import SchemaBinding.Proofs.Model
import SchemaBinding.Proofs.Resolve.ExtensionChains
import SchemaBinding.Resolve.MixedContent

/-!
# `SchemaBinding.Proofs.Mixed.Chain`: chains of bases and what they demand

The pass over mixed content goes through the chains of the declarations that have a base, where a chain could be
followed to its end (`HasChain`). A chain belongs to the declaration that it begins with, so the chains are those of
the declarations `chainHeads`, one for each.

`MixedClosed` is what the chains demand of a set of nodes, without any order: nodes that are mixed belong to it, and
where it holds a node of a chain on which nothing is declared unmixed, it holds the whole chain.
-/

set_option autoImplicit false

namespace SchemaBinding

/-- The chain of a declaration that has a base, followed to its end. -/
structure Model.HasChain (m : Model) (id : NodeId) (chain : List NodeId) : Prop where
  declared : id ∈ m.declarations
  base : (m.node id).base.isSome = true
  complete : m.extensionChain id = ⟨chain, true⟩

/-- The set has the mixed nodes in it. It also has all nodes of a chain in it as soon as it has one of them, if no
node of the chain is declared unmixed. A place that holds no node cannot become mixed. -/
def MixedClosed (m : Model) (mixed : Set NodeId) : Prop :=
  (∀ id, (m.node id).mixed = true → id ∈ mixed) ∧
    ∀ id chain, m.HasChain id chain → (∀ a ∈ chain, (m.node a).mixedDeclared ≠ some false) →
      (∃ a ∈ chain, a ∈ mixed) → ∀ b ∈ chain, m.Holds b → b ∈ mixed

namespace Model

/-- The nodes of the chain that begins with a node. -/
def chainNodes (m : Model) (id : NodeId) : List NodeId := (m.extensionChain id).nodes

/-- The declarations whose chains the pass goes through. -/
def chainHeads (m : Model) : List NodeId :=
  (m.declarations.filter fun id => (m.node id).base.isSome).filter fun id => (m.extensionChain id).isComplete

theorem nodup_chainHeads (m : Model) : m.chainHeads.Nodup :=
  ((nodup_declarations m).filter _).filter _

theorem holds_of_mem_chainHeads {m : Model} {id : NodeId} (h : id ∈ m.chainHeads) : m.Holds id :=
  holds_of_mem_declarations (List.mem_filter.mp (List.mem_filter.mp h).1).1

theorem hasChain_iff {m : Model} {id : NodeId} {chain : List NodeId} :
    m.HasChain id chain ↔ id ∈ m.chainHeads ∧ chain = m.chainNodes id := by
  simp only [chainHeads, List.mem_filter]
  constructor
  · intro h
    have hcomplete := h.complete
    exact ⟨⟨⟨h.declared, h.base⟩, by rw [hcomplete]⟩, by rw [chainNodes, hcomplete]⟩
  · rintro ⟨⟨⟨hdeclared, hbase⟩, hcomplete⟩, rfl⟩
    exact ⟨hdeclared, hbase, by rw [chainNodes, ← hcomplete]⟩

theorem mixedChains_eq (m : Model) :
    mixedChains m = (m.chainHeads.map m.chainNodes, (mixedChains m).2) := by
  unfold mixedChains chainHeads
  simp only [List.filter_map, List.map_map]
  rfl

/-- A chain begins with its own declaration. -/
theorem exists_chainNodes_eq_cons (m : Model) (id : NodeId) : ∃ rest, m.chainNodes id = id :: rest :=
  List.head?_eq_some_iff.mp (m.extensionChain_stops id).1.head

end Model

/-! ### Looking at a chain -/

theorem chainIsMixed_iff {m : Model} {chain : List NodeId} :
    chainIsMixed m chain = true ↔ ∃ id ∈ chain, (m.node id).mixed = true :=
  List.any_eq_true

theorem declaredUnmixed?_eq_none_iff {m : Model} {chain : List NodeId} :
    declaredUnmixed? m chain = none ↔ ∀ id ∈ chain, (m.node id).mixedDeclared ≠ some false := by
  simp [declaredUnmixed?]

/-- The finding for the chain of a declaration, on which something is declared unmixed. -/
def ConflictFinding (m : Model) (id : NodeId) (finding : Diagnostic) : Prop :=
  ∃ unmixed, declaredUnmixed? m (m.chainNodes id) = some unmixed ∧
    finding = mixedConflict (m.node id).name (m.node unmixed).name

end SchemaBinding
