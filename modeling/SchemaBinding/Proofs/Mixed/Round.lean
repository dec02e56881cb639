import Mathlib.Data.List.Perm.Basic
import SchemaBinding.Proofs.Mixed.Chain

/-!
# `SchemaBinding.Proofs.Mixed.Round`: what a round over the chains does

A chain that is looked at is kept, flagged, or made mixed throughout and kept (`Look`). Detection never takes the last
way, and equalization takes each of them.

`Stage` describes a state in the middle of a round, relative to the model that the pass was given. It splits the
declarations with a chain into those flagged, those whose chain has been kept, and those whose chain is still to be
looked at. Nothing but the flags for mixed content and for its conflicts differs from the model, no node is mixed
without need, and the findings are those of the flagged declarations. Looking at a chain takes one stage to the
next (`Stage.look`), so a round takes a stage to a stage (`Stage.foldl`).

In a round of equalization that makes no node mixed, every chain it goes through is settled (`Stage.settled_foldl`).
-/

set_option autoImplicit false

namespace SchemaBinding

/-! ### The two flags of a node -/

namespace Node

/-- A node that has become mixed. -/
def markMixed (n : Node) : Node := { n with mixed := true }

/-- A node whose chain has a conflict. -/
def markConflict (n : Node) : Node := { n with mixedExtensionError := true }

/-- A node with other flags for mixed content and for a conflict. -/
def withFlags (n : Node) (mixed conflict : Bool) : Node :=
  { n with mixed := mixed, mixedExtensionError := conflict }

variable (n : Node) (mixed conflict : Bool)

@[simp]
theorem mixed_markMixed : n.markMixed.mixed = true := rfl

@[simp]
theorem mixedExtensionError_markMixed : n.markMixed.mixedExtensionError = n.mixedExtensionError := rfl

@[simp]
theorem mixed_markConflict : n.markConflict.mixed = n.mixed := rfl

@[simp]
theorem mixedExtensionError_markConflict : n.markConflict.mixedExtensionError = true := rfl

@[simp]
theorem name_withFlags : (n.withFlags mixed conflict).name = n.name := rfl

@[simp]
theorem mixedDeclared_withFlags : (n.withFlags mixed conflict).mixedDeclared = n.mixedDeclared := rfl

@[simp]
theorem markMixed_withFlags : (n.withFlags mixed conflict).markMixed = n.withFlags true conflict := rfl

@[simp]
theorem markConflict_withFlags : (n.withFlags mixed conflict).markConflict = n.withFlags mixed true := rfl

@[simp]
theorem markMixed_markMixed : n.markMixed.markMixed = n.markMixed := rfl

theorem withFlags_self : n.withFlags n.mixed n.mixedExtensionError = n := rfl

end Node

namespace MixedState

variable {m : Model} {s s' : MixedState} {chain : List NodeId}

/-! ### Looking at one chain -/

/-- The states that looking at a chain can lead to. -/
inductive Look (s : MixedState) (chain : List NodeId) : MixedState → Prop where
  | kept (hsafe : chainIsMixed s.model chain = true → declaredUnmixed? s.model chain = none) :
      Look s chain (s.keep chain)
  | flagged {unmixed : NodeId} (hmixed : chainIsMixed s.model chain = true)
      (hunmixed : declaredUnmixed? s.model chain = some unmixed) : Look s chain (s.flag chain unmixed)
  | equalized (hmixed : chainIsMixed s.model chain = true) (hnone : declaredUnmixed? s.model chain = none) :
      Look s chain ((s.mixAll chain).keep chain)

theorem look_detect (s : MixedState) (chain : List NodeId) : Look s chain (s.detect chain) := by
  unfold detect
  split
  · rename_i unmixed hmixed hunmixed
    exact .flagged hmixed hunmixed
  · rename_i hneither
    refine .kept fun hmixed => ?_
    cases hunmixed : declaredUnmixed? s.model chain with
    | none => rfl
    | some unmixed => exact absurd hunmixed (hneither unmixed hmixed)

theorem look_equalize (s : MixedState) (chain : List NodeId) : Look s chain (s.equalize chain) := by
  unfold equalize
  split
  · rename_i unmixed hmixed hunmixed
    exact .flagged hmixed hunmixed
  · rename_i hmixed hnone
    exact .equalized hmixed hnone
  · rename_i hmixed
    refine .kept fun h => ?_
    rw [hmixed] at h
    cases h

theorem model_mixAll (s : MixedState) (chain : List NodeId) :
    (s.mixAll chain).model = chain.foldl (fun m id => m.modifyNode id Node.markMixed) s.model := rfl

theorem node_mixAll (s : MixedState) (chain : List NodeId) (x : NodeId) :
    (s.mixAll chain).model.node x =
      if x ∈ chain ∧ s.model.Holds x then (s.model.node x).markMixed else s.model.node x := by
  rw [model_mixAll]
  generalize s.model = m
  induction chain generalizing m with
  | nil => simp
  | cons id rest ih =>
      rw [List.foldl_cons, ih]
      simp only [Model.holds_modifyNode, Model.node_modifyNode]
      by_cases hx : x = id
      · subst hx
        by_cases hheld : m.Holds x <;> simp [hheld]
      · simp [hx]

theorem holds_mixAll (s : MixedState) (chain : List NodeId) (x : NodeId) :
    (s.mixAll chain).model.Holds x ↔ s.model.Holds x := by
  rw [model_mixAll]
  generalize s.model = m
  induction chain generalizing m with
  | nil => rfl
  | cons id rest ih => rw [List.foldl_cons, ih, Model.holds_modifyNode]

theorem model_flag (s : MixedState) (id : NodeId) (rest : List NodeId) (unmixed : NodeId) :
    (s.flag (id :: rest) unmixed).model = s.model.modifyNode id Node.markConflict := rfl

theorem Look.holds_iff (h : Look s chain s') (x : NodeId) : s'.model.Holds x ↔ s.model.Holds x := by
  cases h with
  | kept => rfl
  | flagged =>
      cases chain with
      | nil => rfl
      | cons id rest => rw [model_flag, Model.holds_modifyNode]
  | equalized => exact holds_mixAll s chain x

/-- A node that is mixed stays so. -/
theorem Look.mixed_mono (h : Look s chain s') {x : NodeId} (hx : (s.model.node x).mixed = true) :
    (s'.model.node x).mixed = true := by
  cases h with
  | kept => exact hx
  | flagged =>
      cases chain with
      | nil => exact hx
      | cons id rest =>
          rw [model_flag, Model.congr_modifyNode Node.mixed_markConflict]
          exact hx
  | equalized =>
      change ((s.mixAll chain).model.node x).mixed = true
      rw [node_mixAll]
      split
      · exact Node.mixed_markMixed _
      · exact hx

/-- Equalization makes a chain mixed throughout if it has a mixed node and can be mixed. -/
theorem mixed_equalize (hmixed : chainIsMixed s.model chain = true) (hnone : declaredUnmixed? s.model chain = none)
    {x : NodeId} (hx : x ∈ chain) (hheld : s.model.Holds x) : ((s.equalize chain).model.node x).mixed = true := by
  have heq : s.equalize chain = (s.mixAll chain).keep chain := by
    unfold equalize
    rw [hmixed, hnone]
  rw [heq]
  change ((s.mixAll chain).model.node x).mixed = true
  rw [node_mixAll, if_pos ⟨hx, hheld⟩, Node.mixed_markMixed]

section
variable {look : MixedState → List NodeId → MixedState} (hlook : ∀ s chain, Look s chain (look s chain))
include hlook

theorem mixed_foldl (chains : List (List NodeId)) (s : MixedState) {x : NodeId}
    (hx : (s.model.node x).mixed = true) : ((chains.foldl look s).model.node x).mixed = true := by
  induction chains generalizing s with
  | nil => exact hx
  | cons chain rest ih => exact ih _ ((hlook s chain).mixed_mono hx)

theorem holds_foldl (chains : List (List NodeId)) (s : MixedState) (x : NodeId) :
    (chains.foldl look s).model.Holds x ↔ s.model.Holds x := by
  induction chains generalizing s with
  | nil => rfl
  | cons chain rest ih => rw [List.foldl_cons, ih, (hlook s chain).holds_iff]

end

/-! ### The stages of a round -/

/-- A state in the middle of a round, when the chains of the declarations `kept` have been kept and those of `rest`
are still to be looked at. -/
structure Stage (m : Model) (flagged kept rest : List NodeId) (s : MixedState) : Prop where
  heads : (flagged ++ kept ++ rest).Perm m.chainHeads
  openChains : s.openChains = kept.map m.chainNodes
  holds : ∀ id, s.model.Holds id ↔ m.Holds id
  /-- Nothing but the two flags of a node differs from the model. -/
  node : ∀ id, ∃ mixed conflict, s.model.node id = (m.node id).withFlags mixed conflict
  error : ∀ id, (s.model.node id).mixedExtensionError = true ↔ id ∈ flagged
  /-- A flagged declaration has a reason to be so. -/
  conflict : ∀ id ∈ flagged, chainIsMixed s.model (m.chainNodes id) = true ∧
    declaredUnmixed? m (m.chainNodes id) ≠ none
  mixed : ∀ id, (m.node id).mixed = true → (s.model.node id).mixed = true
  needed : ∀ mixed, MixedClosed m mixed → ∀ id, (s.model.node id).mixed = true → id ∈ mixed
  findings : ∃ conflicts, s.findings = (mixedChains m).2 ++ conflicts ∧
    List.Forall₂ (ConflictFinding m) flagged conflicts

namespace Stage

variable {flagged kept rest : List NodeId} {id : NodeId}

theorem declaredUnmixed?_eq (h : Stage m flagged kept rest s) (chain : List NodeId) :
    declaredUnmixed? s.model chain = declaredUnmixed? m chain := by
  have hdeclared : ∀ id, (s.model.node id).mixedDeclared = (m.node id).mixedDeclared := by
    intro id
    obtain ⟨mixed, conflict, hnode⟩ := h.node id
    rw [hnode, Node.mixedDeclared_withFlags]
  simp only [declaredUnmixed?, hdeclared]

theorem name_eq (h : Stage m flagged kept rest s) (id : NodeId) : (s.model.node id).name = (m.node id).name := by
  obtain ⟨mixed, conflict, hnode⟩ := h.node id
  rw [hnode, Node.name_withFlags]

/-- The declaration that is next has a chain, and is a node. -/
theorem mem_chainHeads (h : Stage m flagged kept (id :: rest) s) : id ∈ m.chainHeads :=
  h.heads.subset (by simp)

theorem keep (h : Stage m flagged kept (id :: rest) s) :
    Stage m flagged (kept ++ [id]) rest (s.keep (m.chainNodes id)) :=
  { h with
    heads := by simpa using h.heads
    openChains := by simp [MixedState.keep, h.openChains] }

theorem flag (h : Stage m flagged kept (id :: rest) s) {unmixed : NodeId}
    (hmixed : chainIsMixed s.model (m.chainNodes id) = true)
    (hunmixed : declaredUnmixed? s.model (m.chainNodes id) = some unmixed) :
    Stage m (flagged ++ [id]) kept rest (s.flag (m.chainNodes id) unmixed) := by
  obtain ⟨tail, htail⟩ := m.exists_chainNodes_eq_cons id
  have hheld : s.model.Holds id := (h.holds id).mpr (Model.holds_of_mem_chainHeads h.mem_chainHeads)
  obtain ⟨conflicts, hfindings, hconflicts⟩ := h.findings
  have hmodel : (s.flag (m.chainNodes id) unmixed).model = s.model.modifyNode id Node.markConflict := by
    rw [htail, model_flag]
  -- Flags for mixed content stay as they are.
  have hsame : ∀ x, ((s.flag (m.chainNodes id) unmixed).model.node x).mixed = (s.model.node x).mixed := by
    intro x
    rw [hmodel]
    exact Model.congr_modifyNode Node.mixed_markConflict _ _ _
  have hchain : ∀ chain, chainIsMixed (s.flag (m.chainNodes id) unmixed).model chain =
      chainIsMixed s.model chain := by
    intro chain
    simp only [chainIsMixed, hsame]
  refine ⟨?_, ?_, ?_, ?_, ?_, ?_, ?_, ?_, ?_⟩
  · refine List.Perm.trans ?_ h.heads
    -- The declaration moves over those kept.
    simp only [List.append_assoc]
    exact List.Perm.append_left _ (by simpa using List.perm_middle.symm)
  · rw [htail]
    exact h.openChains
  · intro x
    rw [hmodel, Model.holds_modifyNode, h.holds x]
  · intro x
    obtain ⟨mixed, conflict, hnode⟩ := h.node x
    rw [hmodel, Model.node_modifyNode]
    split
    · exact ⟨mixed, true, by rw [hnode, Node.markConflict_withFlags]⟩
    · exact ⟨mixed, conflict, hnode⟩
  · intro x
    rw [hmodel, Model.node_modifyNode]
    by_cases hx : x = id
    · simp [hx, hheld]
    · simp [hx, h.error x]
  · intro x hx
    rw [hchain]
    rcases List.mem_append.mp hx with hx | hx
    · exact h.conflict x hx
    · rw [List.mem_singleton.mp hx]
      refine ⟨hmixed, ?_⟩
      rw [← h.declaredUnmixed?_eq, hunmixed]
      exact Option.some_ne_none _
  · intro x hx
    rw [hsame]
    exact h.mixed x hx
  · intro mixed hclosed x hx
    rw [hsame] at hx
    exact h.needed mixed hclosed x hx
  · refine ⟨conflicts ++ [mixedConflict (m.node id).name (m.node unmixed).name], ?_, ?_⟩
    · rw [htail]
      simp only [MixedState.flag, hfindings, h.name_eq, List.append_assoc]
    · refine List.rel_append hconflicts ?_
      refine List.Forall₂.cons ⟨unmixed, ?_, rfl⟩ List.Forall₂.nil
      rw [← h.declaredUnmixed?_eq, hunmixed]

theorem equalize (h : Stage m flagged kept (id :: rest) s)
    (hmixed : chainIsMixed s.model (m.chainNodes id) = true)
    (hnone : declaredUnmixed? s.model (m.chainNodes id) = none) :
    Stage m flagged kept (id :: rest) (s.mixAll (m.chainNodes id)) := by
  have hmono : ∀ x, (s.model.node x).mixed = true →
      ((s.mixAll (m.chainNodes id)).model.node x).mixed = true :=
    fun x => (Look.equalized hmixed hnone).mixed_mono
  refine ⟨h.heads, h.openChains, ?_, ?_, ?_, ?_, ?_, ?_, h.findings⟩
  · intro x
    rw [holds_mixAll, h.holds x]
  · intro x
    obtain ⟨mixed, conflict, hnode⟩ := h.node x
    rw [node_mixAll]
    split
    · exact ⟨true, conflict, by rw [hnode, Node.markMixed_withFlags]⟩
    · exact ⟨mixed, conflict, hnode⟩
  · intro x
    rw [node_mixAll]
    split
    · rw [Node.mixedExtensionError_markMixed]
      exact h.error x
    · exact h.error x
  · intro x hx
    obtain ⟨hchain, hunmixed⟩ := h.conflict x hx
    refine ⟨?_, hunmixed⟩
    obtain ⟨a, ha, hamixed⟩ := chainIsMixed_iff.mp hchain
    exact chainIsMixed_iff.mpr ⟨a, ha, hmono a hamixed⟩
  · exact fun x hx => hmono x (h.mixed x hx)
  · intro mixed hclosed x hx
    rw [node_mixAll] at hx
    split at hx
    · rename_i hin
      -- A node of the chain was mixed before, so the set has to have the whole chain in it.
      obtain ⟨a, ha, hamixed⟩ := chainIsMixed_iff.mp hmixed
      rw [h.declaredUnmixed?_eq] at hnone
      exact hclosed.2 id (m.chainNodes id) (Model.hasChain_iff.mpr ⟨h.mem_chainHeads, rfl⟩)
        (declaredUnmixed?_eq_none_iff.mp hnone) ⟨a, ha, h.needed mixed hclosed a hamixed⟩ x hin.1
        ((h.holds x).mp hin.2)
    · exact h.needed mixed hclosed x hx

/-- Looking at a chain leads to the next stage. A chain that is kept has had no conflict. -/
theorem look (h : Stage m flagged kept (id :: rest) s) (hlook : Look s (m.chainNodes id) s') :
    ∃ flagged' kept', Stage m flagged' kept' rest s' ∧
      (kept' = kept ∨ kept' = kept ++ [id] ∧
        (chainIsMixed s.model (m.chainNodes id) = true → declaredUnmixed? m (m.chainNodes id) = none)) := by
  cases hlook with
  | kept hsafe =>
      rw [h.declaredUnmixed?_eq] at hsafe
      exact ⟨flagged, kept ++ [id], h.keep, Or.inr ⟨rfl, hsafe⟩⟩
  | flagged hmixed hunmixed => exact ⟨flagged ++ [id], kept, h.flag hmixed hunmixed, Or.inl rfl⟩
  | equalized hmixed hnone =>
      refine ⟨flagged, kept ++ [id], (h.equalize hmixed hnone).keep, Or.inr ⟨rfl, fun _ => ?_⟩⟩
      rw [← h.declaredUnmixed?_eq, hnone]

theorem foldl {look : MixedState → List NodeId → MixedState} (hlook : ∀ s chain, Look s chain (look s chain))
    (h : Stage m flagged kept rest s) :
    ∃ flagged' kept', Stage m flagged' kept' [] ((rest.map m.chainNodes).foldl look s) := by
  induction rest generalizing flagged kept s with
  | nil => exact ⟨flagged, kept, h⟩
  | cons id rest ih =>
      obtain ⟨flagged', kept', h', -⟩ := h.look (hlook s (m.chainNodes id))
      exact ih h'

/-- Between rounds, all chains kept are to be looked at again. -/
theorem reopen (h : Stage m flagged kept [] s) : Stage m flagged [] kept { s with openChains := [] } :=
  { h with
    heads := by simpa using h.heads
    openChains := rfl }

theorem round {look : MixedState → List NodeId → MixedState} (hlook : ∀ s chain, Look s chain (look s chain))
    (h : Stage m flagged kept [] s) : ∃ flagged' kept', Stage m flagged' kept' [] (s.round look) := by
  unfold MixedState.round
  rw [h.openChains]
  exact h.reopen.foldl hlook

/-! ### A round that makes no node mixed -/

/-- The chain has no mixed node, or it is mixed throughout and nothing on it is declared unmixed. -/
def Settled (m : Model) (s : MixedState) (id : NodeId) : Prop :=
  chainIsMixed s.model (m.chainNodes id) = true → declaredUnmixed? m (m.chainNodes id) = none ∧
    ∀ x ∈ m.chainNodes id, m.Holds x → (s.model.node x).mixed = true

theorem Settled.congr (h : Settled m s id) (hsame : ∀ x, (s'.model.node x).mixed = (s.model.node x).mixed) :
    Settled m s' id := by
  unfold Settled chainIsMixed at *
  simpa only [hsame] using h

/-- If a round of equalization leaves the mixed nodes as they were, the chains that it keeps are settled. -/
theorem settled_foldl (h : Stage m flagged kept rest s) (hkept : ∀ x ∈ kept, Settled m s x)
    (hsame : ∀ x, (((rest.map m.chainNodes).foldl MixedState.equalize s).model.node x).mixed =
      (s.model.node x).mixed) :
    ∃ flagged' kept', Stage m flagged' kept' [] ((rest.map m.chainNodes).foldl MixedState.equalize s) ∧
      ∀ x ∈ kept', Settled m ((rest.map m.chainNodes).foldl MixedState.equalize s) x := by
  induction rest generalizing flagged kept s with
  | nil => exact ⟨flagged, kept, h, hkept⟩
  | cons id rest ih =>
      have hlook := look_equalize s (m.chainNodes id)
      obtain ⟨flagged', kept', h', hcases⟩ := h.look hlook
      rw [List.map_cons, List.foldl_cons] at hsame ⊢
      -- What is mixed only grows from here to the end of the round, which has nothing new.
      have hstep : ∀ x, ((s.equalize (m.chainNodes id)).model.node x).mixed = (s.model.node x).mixed := by
        intro x
        refine Bool.eq_iff_iff.mpr ⟨fun hx => ?_, hlook.mixed_mono⟩
        rw [← hsame x]
        exact mixed_foldl look_equalize _ _ hx
      refine ih h' ?_ (fun x => (hsame x).trans (hstep x).symm)
      rcases hcases with rfl | ⟨rfl, hsafe⟩
      · exact fun x hx => (hkept x hx).congr hstep
      · intro x hx
        rcases List.mem_append.mp hx with hx | hx
        · exact (hkept x hx).congr hstep
        · rw [List.mem_singleton.mp hx]
          intro hmixed
          simp only [chainIsMixed, hstep] at hmixed
          have hnone := hsafe hmixed
          refine ⟨hnone, fun y hy hheld => ?_⟩
          exact mixed_equalize hmixed (by rw [h.declaredUnmixed?_eq, hnone]) hy ((h.holds y).mpr hheld)

end Stage

end MixedState

end SchemaBinding
