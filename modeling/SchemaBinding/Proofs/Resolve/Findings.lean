import SchemaBinding.Proofs.Groups.Report
import SchemaBinding.Proofs.Resolve.AttributeGroups
import SchemaBinding.Proofs.Resolve.Registration

/-!
# `SchemaBinding.Proofs.Resolve.Findings`: which pass tells of second declarations

The findings of a resolution are those of its passes, one after the other. Whether a finding is that a name is declared
again can be read from its message alone (`Diagnostic.IsDeclaredAgain`). No message of another pass begins with the same
letter, although all of them go on with names that a schema may choose.

* `forall_findings_forEach`: what holds of the findings of each step holds of all.
* `filter_findings_resolve`: the findings about second declarations are those of the pass that registers them.
-/

set_option autoImplicit false

namespace SchemaBinding

/-- The message begins with another letter than that about second declarations. -/
def Diagnostic.IsOther (d : Diagnostic) : Prop := d.message.toList.head? ≠ some 'd'

theorem Diagnostic.IsOther.not_isDeclaredAgain {d : Diagnostic} (h : d.IsOther) : ¬ d.IsDeclaredAgain := by
  intro hagain
  have hmessage : d.message = (declaredAgain d.node).message := congrArg Diagnostic.message hagain
  exact h (by simp [hmessage, declaredAgain, Diagnostics.warning])

/-- What holds of the findings of each step holds of all. -/
theorem forall_findings_forEach {α : Type} {P : Diagnostic → Prop} {step : Model → α → Resolved}
    (hstep : ∀ m entry, ∀ d ∈ (step m entry).findings, P d) (m : Model) (entries : List α) :
    ∀ d ∈ (Resolved.forEach m entries step).findings, P d := by
  refine List.foldlRecOn entries _ (motive := fun r : Resolved => ∀ d ∈ r.findings, P d) (by simp) ?_
  intro r hr entry _
  exact List.forall_mem_append.mpr ⟨hr, hstep r.model entry⟩

/-! ### Groups -/

theorem isOther_flattenGroups (m : Model) : ∀ d ∈ (flattenGroups m).findings, d.IsOther := by
  obtain ⟨notes, known, strays, hflat⟩ := exists_flattened m
  obtain ⟨told, htold⟩ := exists_told (notes ++ strays)
  rw [hflat.findings, htold.findings]
  intro d hd
  obtain ⟨note, -, rfl⟩ := List.mem_map.mp hd
  cases note with
  | circular path name =>
      simp [GroupNote.diagnostic, circularGroup, Diagnostic.IsOther, Diagnostics.warning]
  | deep path name => simp [GroupNote.diagnostic, deepGroup, Diagnostic.IsOther, Diagnostics.warning]
  | unknown name => simp [GroupNote.diagnostic, unknownGroup, Diagnostic.IsOther, Diagnostics.warning]

theorem isOther_expandAttributeGroups (m : Model) : ∀ d ∈ (expandAttributeGroups m).findings, d.IsOther := by
  refine forall_findings_forEach (fun m id d hd => ?_) m m.preorder
  obtain ⟨name, rfl | rfl⟩ := only_collectedFor hd
  · simp [circularAttributeGroup, Diagnostic.IsOther, Diagnostics.warning]
  · simp [unknownAttributeGroup, Diagnostic.IsOther, Diagnostics.warning]

/-! ### Types -/

section types

variable (m : Model) (owner start : String)

theorem isOther_undeclaredType (name : String) : (undeclaredType owner name).IsOther := by
  simp [undeclaredType, Diagnostic.IsOther, Diagnostics.warning]

theorem isOther_longElementChain : (longElementChain owner start).IsOther := by
  simp [longElementChain, Diagnostic.IsOther, Diagnostics.warning]

theorem isOther_chaseSimpleFrom (room : Nat) (chain : SimpleChain) (name : String) :
    ∀ d ∈ (chaseSimpleFrom m owner start room chain name).2, d.IsOther := by
  fun_induction chaseSimpleFrom m owner start room chain name with
  | case1 => simp [undeclaredSimpleType, Diagnostic.IsOther, Diagnostics.warning]
  | case2 | case3 | case4 => simp
  | case5 => simp [baseNotSimple, Diagnostic.IsOther, Diagnostics.warning]
  | case6 => simp [longSimpleChain, Diagnostic.IsOther, Diagnostics.warning]
  | case7 room chain name d _ _ next _ _ ih => exact ih

theorem isOther_chaseSimple : ∀ d ∈ (chaseSimple m owner start).2, d.IsOther :=
  isOther_chaseSimpleFrom m owner start maxAliasHops {} start

theorem isOther_elementStep {name : String} {n : Node} {r : Resolution} {findings : Diagnostics}
    (h : elementStep m owner name n = .done r findings) : ∀ d ∈ findings, d.IsOther := by
  unfold elementStep at h
  split at h
  · cases h; simp
  · cases h; simp
  · rename_i next _
    split at h
    · cases h
      exact isOther_chaseSimple m owner next
    · split at h
      · cases h; simp
      · split at h
        · cases h
        · cases h
          simp [isOther_undeclaredType]

theorem isOther_chaseElementsFrom (room : Nat) (facets : Option Facets) (name : String) :
    ∀ d ∈ (chaseElementsFrom m owner start room facets name).2, d.IsOther := by
  fun_induction chaseElementsFrom m owner start room facets name with
  | case1 | case2 => simp [isOther_longElementChain]
  | case3 room facets name id hid n found r findings hstep => exact isOther_elementStep m owner hstep
  | case4 room facets name id hid n found next hstep ih => exact ih

end types

theorem isOther_resolveDeclaredType (m : Model) (n : Node) : ∀ d ∈ (resolveDeclaredType m n).2, d.IsOther := by
  unfold resolveDeclaredType
  split
  · simp
  · simp
  · rename_i name _
    split
    · exact isOther_chaseElementsFrom m n.name name (maxAliasHops + 1) none name
    · split
      · exact isOther_chaseSimple m n.name name
      · split
        · simp
        · simp [isOther_undeclaredType]

theorem isOther_resolveNode (m : Model) (n : Node) : ∀ d ∈ (resolveNode m n).2, d.IsOther := by
  unfold resolveNode
  split
  · simp
  · split
    · rename_i name _
      exact isOther_chaseSimple m n.name name
    · exact isOther_resolveDeclaredType m n

theorem isOther_resolveAttribute (m : Model) (owner key : String) (declared : AttributeDef) :
    ∀ d ∈ (resolveAttribute m owner key declared).2, d.IsOther := by
  unfold resolveAttribute
  split
  · simp
  · simp
  · rename_i name _
    split
    · exact isOther_chaseSimple m owner name
    · simp [undeclaredAttributeType, Diagnostic.IsOther, Diagnostics.warning]

theorem isOther_resolveTypes (m : Model) : ∀ d ∈ (resolveTypes m).findings, d.IsOther := by
  refine forall_findings_forEach (fun m id => ?_) m m.declarations
  refine List.forall_mem_append.mpr ⟨isOther_resolveNode m (m.node id), fun d hd => ?_⟩
  obtain ⟨resolved, hresolved, hd⟩ := List.mem_flatMap.mp hd
  obtain ⟨entry, -, rfl⟩ := List.mem_map.mp hresolved
  exact isOther_resolveAttribute _ _ _ _ d hd

/-! ### Mixed content -/

theorem isOther_look {s s' : MixedState} {chain : List NodeId} (h : s.Look chain s')
    (hs : ∀ d ∈ s.findings, d.IsOther) : ∀ d ∈ s'.findings, d.IsOther := by
  cases h with
  | kept => exact hs
  | equalized => exact hs
  | @flagged unmixed =>
      cases chain with
      | nil => exact hs
      | cons first rest =>
          refine List.forall_mem_append.mpr ⟨hs, List.forall_mem_singleton.mpr ?_⟩
          simp [mixedConflict, Diagnostic.IsOther, Diagnostics.error]

theorem isOther_round {look : MixedState → List NodeId → MixedState}
    (hlook : ∀ s chain, MixedState.Look s chain (look s chain)) {s : MixedState} (hs : ∀ d ∈ s.findings, d.IsOther) :
    ∀ d ∈ (s.round look).findings, d.IsOther :=
  List.foldlRecOn s.openChains look (motive := fun s : MixedState => ∀ d ∈ s.findings, d.IsOther) hs
    fun s hs chain _ => isOther_look (hlook s chain) hs

theorem isOther_settle {s : MixedState} (hs : ∀ d ∈ s.findings, d.IsOther) : ∀ d ∈ s.settle.findings, d.IsOther := by
  fun_induction MixedState.settle s with
  | case1 s next hless ih => exact ih (isOther_round MixedState.look_equalize hs)
  | case2 s next hless => exact isOther_round MixedState.look_equalize hs

theorem isOther_checkMixedChains (m : Model) : ∀ d ∈ (checkMixedChains m).findings, d.IsOther := by
  refine isOther_settle (isOther_round MixedState.look_detect fun d hd => ?_)
  obtain ⟨chain, -, rfl⟩ := List.mem_map.mp hd
  simp [endlessChain, Diagnostic.IsOther, Diagnostics.error]

/-! ### Names and marks -/

theorem isOther_renameAttribute (children : List String) (m : Model) (id : NodeId) (key : String) :
    ∀ d ∈ (renameAttribute children m id key).findings, d.IsOther := by
  have hclash : ∀ (suffix owner : String),
      ∀ d ∈ if suffix = attributeSuffix 0 then [] else [suffixClash owner key], d.IsOther := by
    intro suffix owner
    split
    · simp
    · simp [suffixClash, Diagnostic.IsOther, Diagnostics.warning]
  unfold renameAttribute
  dsimp only
  split
  · simp
  · split
    · exact hclash _ _
    · refine List.forall_mem_append.mpr ⟨hclash _ _, List.forall_mem_singleton.mpr ?_⟩
      simp [attributeRenamed, Diagnostic.IsOther, Diagnostics.info]

theorem isOther_disambiguateNames (m : Model) : ∀ d ∈ (disambiguateNames m).findings, d.IsOther :=
  forall_findings_forEach
    (fun m id => forall_findings_forEach (fun m key => isOther_renameAttribute _ m id key) m _) m m.declarations

theorem findings_markExtended (m : Model) : (markExtended m).findings = [] := by
  refine List.eq_nil_iff_forall_not_mem.mpr (forall_findings_forEach (fun m id d hd => ?_) m m.declarations)
  unfold markBase at hd
  split at hd
  · split at hd <;> exact List.not_mem_nil hd
  · exact List.not_mem_nil hd

/-! ### All passes -/

/-- The findings about second declarations are those of the pass that registers them. -/
theorem filter_findings_resolve (names : NameTable) (m : Model) :
    (resolve names m).findings.filter (·.IsDeclaredAgain) =
      (registerSymbols names (Stage.collected m)).findings.filter (·.IsDeclaredAgain) := by
  have hnone : ∀ ds : Diagnostics, (∀ d ∈ ds, d.IsOther) → ds.filter (·.IsDeclaredAgain) = [] := fun ds hds =>
    List.filter_eq_nil_iff.mpr fun d hd => by simpa using (hds d hd).not_isDeclaredAgain
  have hfindings : (resolve names m).findings =
      (flattenGroups m).findings ++ (expandAttributeGroups (Stage.flat m)).findings ++
        (registerSymbols names (Stage.collected m)).findings ++ (resolveTypes (Stage.registered names m)).findings ++
        (checkMixedChains (Stage.typed names m)).findings ++ (disambiguateNames (Stage.checked names m)).findings ++
        (markExtended (Stage.unmarked names m)).findings := rfl
  rw [hfindings]
  simp only [List.filter_append, hnone _ (isOther_flattenGroups _), hnone _ (isOther_expandAttributeGroups _),
    hnone _ (isOther_resolveTypes _), hnone _ (isOther_checkMixedChains _), hnone _ (isOther_disambiguateNames _),
    findings_markExtended, List.nil_append, List.append_nil]

end SchemaBinding
