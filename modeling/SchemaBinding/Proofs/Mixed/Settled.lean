import Mathlib.Data.Finset.Card
import Mathlib.Logic.Function.Iterate
import SchemaBinding.Proofs.Diagnostics
import SchemaBinding.Proofs.Mixed.Round

/-!
# `SchemaBinding.Proofs.Mixed.Settled`: mixed content as a least fixed point

Detection goes over the chains once, and then rounds of equalization follow. `exists_settle_eq` says that the rounds
come to an end: each round but the last makes a node mixed, and the last one makes none.

At the end of that last round every chain that is still kept is settled, and every other one has been flagged for a
conflict. `checkMixedChains_fixedPoint` reads off what the pass does. The mixed nodes are the least set that the
chains allow (`MixedClosed`), whatever the order of the chains. The flagged declarations are those whose chain has a
mixed node and a node declared unmixed, and each of them has one finding.
-/

set_option autoImplicit false

namespace SchemaBinding

namespace MixedState

variable {m : Model} {s s' : MixedState}

/-! ### Counting the nodes that are not mixed -/

theorem unmixedCount_eq_card (m : Model) :
    unmixedCount m = ((Finset.range m.nodes.size).filter fun i => (m.node ⟨i⟩).mixed = false).card := by
  have hnodes : m.nodes.toList = (List.range m.nodes.size).map fun i => m.node ⟨i⟩ := by
    refine List.ext_getElem (by simp) fun i h _ => ?_
    have hi : i < m.nodes.size := by simpa using h
    simp [Model.node, Array.getD_eq_getD_getElem?, hi]
  rw [unmixedCount, ← Array.countP_toList, hnodes, List.countP_map, List.countP_eq_length_filter]
  change _ = ((List.range m.nodes.size).filter fun i => decide ((m.node ⟨i⟩).mixed = false)).length
  congr 2
  funext i
  simp

theorem size_eq_of_holds_iff {m m' : Model} (h : ∀ x, m'.Holds x ↔ m.Holds x) : m'.nodes.size = m.nodes.size := by
  refine Nat.le_antisymm (Nat.le_of_not_lt fun hlt => ?_) (Nat.le_of_not_lt fun hlt => ?_)
  · exact Nat.lt_irrefl _ ((h ⟨m.nodes.size⟩).mp hlt)
  · exact Nat.lt_irrefl _ ((h ⟨m'.nodes.size⟩).mpr hlt)

/-- Fewer nodes are left unmixed as soon as one more is mixed. -/
theorem unmixedCount_lt {m m' : Model} (hholds : ∀ x, m'.Holds x ↔ m.Holds x)
    (hmono : ∀ x, (m.node x).mixed = true → (m'.node x).mixed = true) {x : NodeId} (hheld : m.Holds x)
    (hold : (m.node x).mixed = false) (hnew : (m'.node x).mixed = true) : unmixedCount m' < unmixedCount m := by
  rw [unmixedCount_eq_card, unmixedCount_eq_card, size_eq_of_holds_iff hholds]
  refine Finset.card_lt_card (Finset.ssubset_iff_subset_ne.mpr ⟨?_, fun heq => ?_⟩)
  · intro i hi
    rw [Finset.mem_filter] at hi ⊢
    refine ⟨hi.1, Bool.eq_false_iff.mpr fun hmixed => ?_⟩
    rw [hmono ⟨i⟩ hmixed] at hi
    cases hi.2
  · have hx : x.index ∈ (Finset.range m.nodes.size).filter fun i => (m.node ⟨i⟩).mixed = false :=
      Finset.mem_filter.mpr ⟨Finset.mem_range.mpr hheld, hold⟩
    rw [← heq, Finset.mem_filter, hnew] at hx
    cases hx.2

/-- Where nothing becomes mixed, as many nodes as before are left unmixed. -/
theorem unmixedCount_le {m m' : Model} (hholds : ∀ x, m'.Holds x ↔ m.Holds x)
    (hback : ∀ x, (m'.node x).mixed = true → (m.node x).mixed = true) : unmixedCount m ≤ unmixedCount m' := by
  rw [unmixedCount_eq_card, unmixedCount_eq_card, size_eq_of_holds_iff hholds]
  refine Finset.card_le_card fun i hi => ?_
  rw [Finset.mem_filter] at hi ⊢
  refine ⟨hi.1, Bool.eq_false_iff.mpr fun hmixed => ?_⟩
  rw [hback ⟨i⟩ hmixed] at hi
  cases hi.2

/-! ### The rounds -/

/-- The state after detection, before any node is made mixed. -/
def detected (m : Model) : MixedState := (MixedState.mk m (mixedChains m).1 (mixedChains m).2).round .detect

/-- The state after detection and a number of rounds. -/
def afterRounds (m : Model) (n : Nat) : MixedState := (round equalize)^[n] (detected m)

theorem holds_round (s : MixedState) (x : NodeId) : (s.round equalize).model.Holds x ↔ s.model.Holds x :=
  holds_foldl look_equalize s.openChains _ x

theorem mixed_round (s : MixedState) {x : NodeId} (hx : (s.model.node x).mixed = true) :
    ((s.round equalize).model.node x).mixed = true :=
  mixed_foldl look_equalize s.openChains _ hx

/-- The rounds come to an end. Each of them but the last makes a node mixed, and the last one makes none. -/
theorem exists_settle_eq (s : MixedState) :
    ∃ n ≤ unmixedCount s.model, s.settle = (round equalize)^[n + 1] s ∧
      (∀ k < n, ∃ x, (((round equalize)^[k] s).model.node x).mixed = false ∧
        (((round equalize)^[k + 1] s).model.node x).mixed = true) ∧
      ∀ x, (((round equalize)^[n + 1] s).model.node x).mixed = (((round equalize)^[n] s).model.node x).mixed := by
  fun_induction settle s with
  | case1 s next hless ih =>
      obtain ⟨n, hn, heq, hbefore, hlast⟩ := ih
      refine ⟨n + 1, by omega, heq, ?_, hlast⟩
      intro k hk
      cases k with
      | zero =>
          -- There are fewer unmixed nodes after the round, so some node has become mixed.
          by_contra hnone
          refine Nat.lt_irrefl _ (Nat.lt_of_lt_of_le hless (unmixedCount_le (holds_round s) fun x hx => ?_))
          refine Bool.of_not_eq_false fun hold => hnone ⟨x, hold, ?_⟩
          exact hx
      | succ k => exact hbefore k (by omega)
  | case2 s next hless =>
      refine ⟨0, Nat.zero_le _, rfl, fun k hk => absurd hk (Nat.not_lt_zero k), fun x => ?_⟩
      refine Bool.eq_iff_iff.mpr ⟨fun hnew => ?_, mixed_round s⟩
      by_contra hold
      have hold : (s.model.node x).mixed = false := Bool.eq_false_iff.mpr hold
      -- A place without a node is not mixed, neither before nor after.
      have hheld : s.model.Holds x := by
        by_contra hout
        have hnode : next.model.node x = default := Model.node_of_not_holds fun h => hout ((holds_round s x).mp h)
        change (next.model.node x).mixed = true at hnew
        rw [hnode] at hnew
        cases hnew
      exact hless (unmixedCount_lt (holds_round s) (fun x => mixed_round s) hheld hold hnew)

/-! ### The stages that the pass comes to -/

theorem stage_start {m : Model} (hfresh : ∀ n ∈ m.nodes, n.mixedExtensionError = false) :
    Stage m [] [] m.chainHeads ⟨m, [], (mixedChains m).2⟩ where
  heads := by simp
  openChains := rfl
  holds := fun _ => Iff.rfl
  node := fun id => ⟨(m.node id).mixed, (m.node id).mixedExtensionError, ((m.node id).withFlags_self).symm⟩
  error := by
    intro id
    have hclear : (m.node id).mixedExtensionError = false := by
      by_cases hheld : m.Holds id
      · exact hfresh _ (Model.node_mem_nodes hheld)
      · rw [Model.node_of_not_holds hheld]
        rfl
    simp [hclear]
  conflict := by simp
  mixed := fun _ h => h
  needed := fun _ hclosed id h => hclosed.1 id h
  findings := ⟨[], by simp, List.Forall₂.nil⟩

theorem exists_stage_afterRounds {m : Model} (hfresh : ∀ n ∈ m.nodes, n.mixedExtensionError = false) (n : Nat) :
    ∃ flagged kept, Stage m flagged kept [] (afterRounds m n) := by
  induction n with
  | zero =>
      have h := (stage_start hfresh).foldl look_detect
      unfold afterRounds detected round
      rw [Model.mixedChains_eq]
      exact h
  | succ n ih =>
      obtain ⟨flagged, kept, h⟩ := ih
      unfold afterRounds
      rw [Function.iterate_succ_apply']
      exact h.round look_equalize

/-- After a round that makes no node mixed, every chain is flagged or settled. -/
theorem exists_stage_settled {m : Model} (hfresh : ∀ n ∈ m.nodes, n.mixedExtensionError = false) {n : Nat}
    (hsame : ∀ x, ((afterRounds m (n + 1)).model.node x).mixed = ((afterRounds m n).model.node x).mixed) :
    ∃ flagged kept, Stage m flagged kept [] (afterRounds m (n + 1)) ∧
      ∀ id ∈ kept, Stage.Settled m (afterRounds m (n + 1)) id := by
  obtain ⟨flagged, kept, h⟩ := exists_stage_afterRounds hfresh n
  have hnext : afterRounds m (n + 1) = (kept.map m.chainNodes).foldl equalize
      { afterRounds m n with openChains := [] } := by
    unfold afterRounds
    rw [Function.iterate_succ_apply', round]
    rw [← h.openChains]
    rfl
  rw [hnext] at hsame ⊢
  exact h.reopen.settled_foldl (fun _ hx => absurd hx List.not_mem_nil) hsame

end MixedState

open MixedState

/-! ### The findings about conflicts -/

theorem ConflictFinding.matches {m : Model} {id : NodeId} {d : Diagnostic} (h : ConflictFinding m id d) :
    Diagnostics.Matches "mixed content conflicts" d := by
  obtain ⟨unmixed, -, rfl⟩ := h
  refine Diagnostics.matches_of_message_eq (" with mixed=\"false\" on " ++
    (Text.quoted (m.node unmixed).name ++ " in its extension chain")) ?_
  rw [← String.append_assoc]
  rfl

theorem matches_of_conflictFindings {m : Model} {flagged : List NodeId} {conflicts : List Diagnostic}
    (h : List.Forall₂ (ConflictFinding m) flagged conflicts) :
    ∀ d ∈ conflicts, Diagnostics.Matches "mixed content conflicts" d := by
  induction h with
  | nil => simp
  | cons hfirst _ ih =>
      intro d hd
      rcases List.mem_cons.mp hd with rfl | hd
      · exact hfirst.matches
      · exact ih d hd

theorem not_matches_of_mem_endless {m : Model} {d : Diagnostic} (h : d ∈ (mixedChains m).2) :
    ¬ Diagnostics.Matches "mixed content conflicts" d := by
  obtain ⟨c, -, rfl⟩ := List.mem_map.mp h
  -- The message is the same one for every declaration.
  change ¬ Text.occursIn _ (endlessChain "").message.toList = true
  decide +kernel

/-! ### What the pass does -/

/-- What a pass over the mixed content of a model has to give. -/
structure MixedFixedPoint (m : Model) (r : Resolved) : Prop where
  /-- The mixed nodes are the least set that the chains of the model allow. -/
  least : IsLeast {mixed | MixedClosed m mixed} {id | (r.model.node id).mixed = true}
  /-- A declaration is flagged exactly when its chain has a node declared unmixed and a node that is mixed now. -/
  error : ∀ id, (r.model.node id).mixedExtensionError = true ↔
    ∃ chain, m.HasChain id chain ∧ (∃ a ∈ chain, (m.node a).mixedDeclared = some false) ∧
      ∃ b ∈ chain, (r.model.node b).mixed = true
  /-- The findings about conflicts are one for each flagged declaration. -/
  conflicts : ∃ flagged : List NodeId, flagged.Nodup ∧
    (∀ id, id ∈ flagged ↔ (r.model.node id).mixedExtensionError = true) ∧
    List.Forall₂ (ConflictFinding m) flagged (Diagnostics.matching r.findings "mixed content conflicts")
  /-- The chain of a declaration that is not flagged is mixed throughout, or not at all. -/
  uniform : ∀ id chain, m.HasChain id chain → (r.model.node id).mixedExtensionError = false →
    (∀ b ∈ chain, m.Holds b → (r.model.node b).mixed = true) ∨ ∀ b ∈ chain, (r.model.node b).mixed = false
  /-- The rounds after detection end. Each but the last makes a node mixed, so there are not many. -/
  ends : ∃ n ≤ unmixedCount m, r = ⟨(afterRounds m (n + 1)).model, (afterRounds m (n + 1)).findings⟩ ∧
    (∀ k < n, ∃ id, ((afterRounds m k).model.node id).mixed = false ∧
      ((afterRounds m (k + 1)).model.node id).mixed = true) ∧
    ∀ id, ((afterRounds m (n + 1)).model.node id).mixed = ((afterRounds m n).model.node id).mixed

section
variable {m : Model} {s : MixedState} {flagged kept : List NodeId} (h : Stage m flagged kept [] s)
  (hkept : ∀ id ∈ kept, Stage.Settled m s id)
include h hkept

/-- In the end, a declaration with a chain is flagged, or its chain is settled. -/
theorem MixedState.Stage.flagged_or_settled {id : NodeId} {chain : List NodeId} (hchain : m.HasChain id chain) :
    chain = m.chainNodes id ∧ (id ∈ flagged ∨ id ∉ flagged ∧ Stage.Settled m s id) := by
  obtain ⟨hhead, rfl⟩ := Model.hasChain_iff.mp hchain
  refine ⟨rfl, ?_⟩
  by_cases hflagged : id ∈ flagged
  · exact Or.inl hflagged
  · have hmem := h.heads.mem_iff.mpr hhead
    simp only [List.append_nil, List.mem_append, hflagged, false_or] at hmem
    exact Or.inr ⟨hflagged, hkept id hmem⟩

theorem MixedState.Stage.isLeast :
    IsLeast {mixed | MixedClosed m mixed} {id | (s.model.node id).mixed = true} := by
  refine ⟨⟨h.mixed, ?_⟩, fun mixed hclosed id hid => h.needed mixed hclosed id hid⟩
  rintro id chain hchain hnone ⟨a, ha, hmixed⟩ b hb hheld
  obtain ⟨rfl, hflagged | ⟨-, hsettled⟩⟩ := h.flagged_or_settled hkept hchain
  · -- On the chain of a flagged declaration there is a node declared unmixed.
    exact absurd (declaredUnmixed?_eq_none_iff.mpr hnone) (h.conflict id hflagged).2
  · exact (hsettled (chainIsMixed_iff.mpr ⟨a, ha, hmixed⟩)).2 b hb hheld

theorem MixedState.Stage.error_iff (id : NodeId) :
    (s.model.node id).mixedExtensionError = true ↔
      ∃ chain, m.HasChain id chain ∧ (∃ a ∈ chain, (m.node a).mixedDeclared = some false) ∧
        ∃ b ∈ chain, (s.model.node b).mixed = true := by
  rw [h.error id]
  constructor
  · intro hflagged
    obtain ⟨hmixed, hunmixed⟩ := h.conflict id hflagged
    have hhead : id ∈ m.chainHeads := h.heads.subset (by simp [hflagged])
    rw [ne_eq, declaredUnmixed?_eq_none_iff] at hunmixed
    push Not at hunmixed
    exact ⟨_, Model.hasChain_iff.mpr ⟨hhead, rfl⟩, hunmixed, chainIsMixed_iff.mp hmixed⟩
  · rintro ⟨chain, hchain, ⟨a, ha, hdeclared⟩, hmixed⟩
    obtain ⟨rfl, hflagged | ⟨-, hsettled⟩⟩ := h.flagged_or_settled hkept hchain
    · exact hflagged
    · have hnone := (hsettled (chainIsMixed_iff.mpr hmixed)).1
      exact absurd hdeclared (declaredUnmixed?_eq_none_iff.mp hnone a ha)

theorem MixedState.Stage.uniform {id : NodeId} {chain : List NodeId} (hchain : m.HasChain id chain)
    (hclear : (s.model.node id).mixedExtensionError = false) :
    (∀ b ∈ chain, m.Holds b → (s.model.node b).mixed = true) ∨ ∀ b ∈ chain, (s.model.node b).mixed = false := by
  obtain ⟨rfl, hflagged | ⟨-, hsettled⟩⟩ := h.flagged_or_settled hkept hchain
  · rw [(h.error id).mpr hflagged] at hclear
    cases hclear
  · by_cases hmixed : chainIsMixed s.model (m.chainNodes id) = true
    · exact Or.inl (hsettled hmixed).2
    · right
      intro b hb
      exact Bool.eq_false_iff.mpr fun hbmixed => hmixed (chainIsMixed_iff.mpr ⟨b, hb, hbmixed⟩)

end

theorem MixedState.Stage.conflicts_eq {m : Model} {s : MixedState} {flagged kept : List NodeId}
    (h : Stage m flagged kept [] s) :
    List.Forall₂ (ConflictFinding m) flagged (Diagnostics.matching s.findings "mixed content conflicts") := by
  obtain ⟨conflicts, hfindings, hconflicts⟩ := h.findings
  rwa [hfindings, Diagnostics.matching_append, Diagnostics.matching_eq_nil fun d => not_matches_of_mem_endless,
    Diagnostics.matching_eq_self (matches_of_conflictFindings hconflicts), List.nil_append]

/-- The pass makes the least set of nodes mixed that the chains allow, flags the declarations whose chains conflict,
with one finding for each, and ends. -/
theorem checkMixedChains_fixedPoint (m : Model) (hfresh : ∀ n ∈ m.nodes, n.mixedExtensionError = false) :
    MixedFixedPoint m (checkMixedChains m) := by
  obtain ⟨n, hn, hsettle, hbefore, hlast⟩ := exists_settle_eq (detected m)
  obtain ⟨flagged, kept, h, hkept⟩ := exists_stage_settled hfresh hlast
  have hpass : checkMixedChains m = ⟨(afterRounds m (n + 1)).model, (afterRounds m (n + 1)).findings⟩ := by
    unfold afterRounds
    rw [← hsettle]
    rfl
  have hcount : n ≤ unmixedCount m := by
    obtain ⟨_, _, hdetected⟩ := exists_stage_afterRounds hfresh 0
    exact hn.trans (unmixedCount_le (fun x => (hdetected.holds x).symm) hdetected.mixed)
  have hnodup : flagged.Nodup := by
    have hheads := h.heads.nodup_iff.mpr (Model.nodup_chainHeads m)
    rw [List.append_nil] at hheads
    exact (List.nodup_append.mp hheads).1
  rw [hpass]
  exact
    { least := h.isLeast hkept
      error := h.error_iff hkept
      conflicts := ⟨flagged, hnodup, fun id => (h.error id).symm, h.conflicts_eq⟩
      uniform := fun id chain hchain hclear => h.uniform hkept hchain hclear
      ends := ⟨n, hcount, rfl, hbefore, hlast⟩ }

/-- A type as it stands after the types have been resolved, with a base and what it says about mixed content. -/
def extendingType (name : String) (base : Option String) (mixed : Option Bool) : Node :=
  { Node.ofKind .complexType name with
    isTopLevel := true, base := base, mixed := mixed.getD false, mixedDeclared := mixed }

/-- `D` and `B` extend `A`, and `C` extends `B`. Only `C` is mixed, and `D` is declared unmixed. -/
def siblingTypes : Model where
  nodes := #[{ Node.ofKind .schema "schema" with children := [⟨1⟩, ⟨2⟩, ⟨3⟩, ⟨4⟩] },
    extendingType "A" none none, extendingType "D" (some "A") (some false), extendingType "B" (some "A") none,
    extendingType "C" (some "B") (some true)]
  symbols := { elements := .ofList [("A", ⟨1⟩), ("D", ⟨2⟩), ("B", ⟨3⟩), ("C", ⟨4⟩)] }

theorem checkMixedChains_fixedPoint_siblingTypes :
    (∀ n ∈ siblingTypes.nodes, n.mixedExtensionError = false) ∧
      MixedFixedPoint siblingTypes (checkMixedChains siblingTypes) := by
  have hfresh : ∀ n ∈ siblingTypes.nodes, n.mixedExtensionError = false := by decide
  exact ⟨hfresh, checkMixedChains_fixedPoint siblingTypes hfresh⟩

set_option maxRecDepth 20000 in
/-- Equalization gets to `A` by way of `B`, and then `D` cannot follow. -/
example : (checkMixedChains siblingTypes).model.nodes.toList.map
    (fun n => (n.name, n.mixed, n.mixedExtensionError)) =
      [("schema", false, false), ("A", true, false), ("D", false, true), ("B", true, false), ("C", true, false)] := by
  cbv

end SchemaBinding
