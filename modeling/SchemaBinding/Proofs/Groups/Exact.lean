import SchemaBinding.Proofs.Builder.Built
import SchemaBinding.Proofs.Groups.Note

/-!
# `SchemaBinding.Proofs.Groups.Exact`: flattening is substitution

Where every reference has its group and no references go in a circle or too deep, flattening does what it is for. The
children of every node that the root reaches are the original children with the references replaced, all the way down,
and there is nothing to report (`flattenGroups_exact`). The nodes themselves may well lie on a cycle afterwards. An
element of a group may refer to that group from its own type, and gets to be its own descendant.
-/

set_option autoImplicit false

namespace SchemaBinding

/-- The result of a flattening in which every reference has been replaced. -/
structure ExactFlattening (m : Model) (r : Resolved) : Prop where
  /-- The children are the original ones with the references replaced, in place and in order. -/
  substituted : ∀ id, r.model.Reaches Model.root id → Substituted m (m.children id) (r.model.children id)
  /-- Besides its children, nothing about a node has changed. -/
  node : ∀ id, r.model.node id = (m.node id).withChildren (r.model.children id)
  /-- No reference is left below the root. -/
  expanded : ∀ id, r.model.Reaches Model.root id → (r.model.node id).kind ≠ .groupRef
  findings : r.findings = []

/-- Sound particles in the place of references that reach no cycle are those of the substitution. -/
theorem Sound.substituted {m : Model} {known : Table (List NodeId)} (h : Sound m known) (hcomplete : Complete m known)
    {ids : List NodeId} (hacyclic : ∀ x, (GroupTask.particles ids).Needs m x → ReachesNoCycle m x) :
    Substituted m ids (ids.flatMap (contentOf m known)) := by
  induction ids with
  | nil => exact .nil
  | cons id rest ih =>
      have hrest := ih fun x hx => hacyclic x (hx.cons id)
      rw [List.flatMap_cons]
      cases hid : (m.node id).referencedGroup? with
      | none =>
          rw [contentOf_of_none hid]
          exact .particle hid hrest
      | some name =>
          rw [contentOf_of_some hid]
          by_cases hname : known.Has name
          · obtain ⟨particles, hparticles⟩ := hname
            obtain ⟨definition, hdefinition, hcontent⟩ := h name particles hparticles
            rw [hparticles]
            exact .reference hid hdefinition (hcontent (hacyclic name (GroupTask.needs_head hid rest))) hrest
          · rw [Table.get?_eq_none_iff.mpr hname]
            exact .unknown hid (fun hdeclared => hname ((hcomplete name).mpr hdeclared)) hrest

/-- If all references go to declared groups, in no circle and not too deep, then they are all replaced. -/
theorem flattenGroups_exact {m : Model} (hbuilt : m.IsBuilt)
    (hdeclared : ∀ id name, (m.node id).referencedGroup? = some name → IsDeclared m name)
    (hacyclic : ∀ name, ¬ OnCycle m name)
    (hdepth : ∀ path : List String, path.IsChain (Refers m) → path.length ≤ maxGroupDepth) :
    ExactFlattening m (flattenGroups m) := by
  obtain ⟨notes, known, strays, hflat⟩ := exists_flattened m
  have hsound : Sound m known := hflat.opening.sound fun path _ hchain _ => hdepth path hchain
  have hsubstituted : ∀ id, (flattenGroups m).model.Reaches Model.root id →
      Substituted m (m.children id) ((flattenGroups m).model.children id) := by
    intro id hreaches
    rw [hflat.children id hreaches]
    exact hsound.substituted hflat.complete fun _ _ x _ => hacyclic x
  -- None of the reasons for a reference to stay applies.
  have hquiet : notes ++ strays = [] := by
    rw [List.eq_nil_iff_forall_not_mem]
    intro note hnote
    have hvalid := hflat.valid hnote
    cases note with
    | circular path name => exact hacyclic name hvalid.onCycle
    | deep path name =>
        have hle := hdepth (path ++ [name]) hvalid.2
        rw [List.length_append, hvalid.1, List.length_singleton] at hle
        omega
    | unknown name =>
        obtain ⟨hnamed, hnone⟩ := hvalid
        rcases hnamed with hnamed | ⟨id, hid⟩
        · exact hnone hnamed
        · exact hnone (hdeclared id name hid)
  constructor
  case substituted => exact hsubstituted
  case node => exact hflat.node
  case expanded =>
    intro id hreaches hkind
    rw [hflat.node] at hkind
    have hreferenced : (m.node id).referencedGroup? = some (m.node id).name :=
      (if_pos hkind).trans (hbuilt.groupRef_eq hkind)
    -- The root is no reference, and every other node is a child of one whose references have been replaced.
    rcases Relation.ReflTransGen.cases_tail hreaches with rfl | ⟨owner, howner, hchild⟩
    · exact absurd (hbuilt.kind_root.symm.trans hkind) (by decide)
    · exact (hsubstituted owner howner).not_isDeclared hchild hreferenced (hdeclared id _ hreferenced)
  case findings => rw [hflat.findings, hquiet]; rfl

/-- The group `Outer` refers to the group `Parts`, and so does the type of the only element of `Parts`. -/
def partsInParts : Model where
  nodes := #[taggedNode .schema "schema" false [⟨6⟩],
    taggedNode .group "Parts" true [⟨2⟩], taggedNode .element "part" false [⟨3⟩],
    taggedNode .groupRef "Parts" false [],
    taggedNode .group "Outer" true [⟨5⟩], taggedNode .groupRef "Parts" false [],
    taggedNode .complexType "T" true [⟨7⟩, ⟨8⟩], taggedNode .groupRef "Outer" false [],
    taggedNode .element "last" false []]
  symbols := { elementGroups := .ofList [("Parts", ⟨1⟩), ("Outer", ⟨4⟩)] }
  builtins := ⟨""⟩

theorem isBuilt_partsInParts : partsInParts.IsBuilt := by
  let parts := enclosed "group" [("name", "Parts")]
    (enclosed "element" [("name", "part")] (enclosed "complexType" [] (enclosed "group" [("ref", "Parts")] [])))
  let outer := enclosed "group" [("name", "Outer")] (enclosed "group" [("ref", "Parts")] [])
  let type := enclosed "complexType" [("name", "T")]
    (enclosed "group" [("ref", "Outer")] [] ++ enclosed "element" [("name", "last")] [])
  have hread : (Model.ofEvents none (enclosed "schema" [] (parts ++ outer ++ type))).toOption =
      some partsInParts := by
    decide
  exact Model.isBuilt_of_toOption_eq hread

/-- How deep references nest in a group of `partsInParts`. -/
def nestingRank (name : String) : Nat := if name = "Outer" then 1 else 0

theorem nestingRank_lt_two (name : String) : nestingRank name < 2 := by
  unfold nestingRank
  split <;> decide

theorem nestingRank_lt : ∀ edge ∈ groupReferences partsInParts, nestingRank edge.2 < nestingRank edge.1 := by
  decide

theorem not_onCycle_partsInParts : ∀ name, ¬ OnCycle partsInParts name :=
  not_onCycle_of_rank nestingRank nestingRank_lt

theorem flattenGroups_exact_partsInParts :
    partsInParts.IsBuilt ∧
    (∀ id name, (partsInParts.node id).referencedGroup? = some name → IsDeclared partsInParts name) ∧
    (∀ name, ¬ OnCycle partsInParts name) ∧
    (∀ path : List String, path.IsChain (Refers partsInParts) → path.length ≤ maxGroupDepth) ∧
      ExactFlattening partsInParts (flattenGroups partsInParts) := by
  have hbuilt := isBuilt_partsInParts
  have hnodes : ∀ n ∈ partsInParts.nodes.toList, ∀ name ∈ n.referencedGroup?,
      name ∈ partsInParts.symbols.elementGroups.keys := by decide +kernel
  have hdeclared : ∀ id name, (partsInParts.node id).referencedGroup? = some name → IsDeclared partsInParts name :=
    fun id name hname => Table.has_iff_mem_keys.mpr (forall_referencedGroup? hnodes hname)
  have hacyclic := not_onCycle_partsInParts
  have hdepth : ∀ path : List String, path.IsChain (Refers partsInParts) → path.length ≤ maxGroupDepth := by
    intro path hchain
    exact le_trans (length_le_of_rank nestingRank nestingRank_lt 2 nestingRank_lt_two hchain) (by decide)
  exact ⟨hbuilt, hdeclared, hacyclic, hdepth, flattenGroups_exact hbuilt hdeclared hacyclic hdepth⟩

set_option maxRecDepth 20000 in
/-- The type `T` gets the particles of both groups, and `part` gets to be a child of itself. -/
example : (flattenGroups partsInParts).model.children ⟨6⟩ = [⟨2⟩, ⟨8⟩] ∧
    (flattenGroups partsInParts).model.children ⟨2⟩ = [⟨2⟩] := by
  cbv

end SchemaBinding
