import SchemaBinding.Resolve.Pass
import SchemaBinding.Text.Quoted

/-!
# `SchemaBinding.Resolve.AttributeGroups`: references to attribute groups

A node gets the attributes of every attribute group that it refers to, and of every group that such a group
refers to. A reference back into a group that is being collected is reported, as is a reference to
a group that is not declared. The walk ends because every group on its path is declared and on it once.
-/

set_option autoImplicit false

namespace SchemaBinding

/-- The attributes that a walk through attribute groups has found, and its findings. -/
structure CollectedAttributes where
  entries : List (String × AttributeDef)
  findings : Diagnostics
  deriving Repr, DecidableEq, Inhabited

namespace CollectedAttributes

def append (a b : CollectedAttributes) : CollectedAttributes :=
  ⟨a.entries ++ b.entries, a.findings ++ b.findings⟩

def concat (parts : List CollectedAttributes) : CollectedAttributes :=
  parts.foldl append ⟨[], []⟩

end CollectedAttributes

/-- The finding for a reference back into a group that is being collected. -/
def circularAttributeGroup (owner name : String) : Diagnostic :=
  Diagnostics.warning owner ("circular attribute group reference through " ++ Text.quoted name)

/-- The finding for a reference to an attribute group that is not declared. -/
def unknownAttributeGroup (owner name : String) : Diagnostic :=
  Diagnostics.warning owner ("reference to unknown attribute group " ++ Text.quoted name)

/-- The declared attribute groups that are not on a path. -/
def Symbols.groupsOff (s : Symbols) (path : List String) : List String :=
  s.attributeGroups.keys.filter (!path.contains ·)

theorem Table.mem_keys_of_get? {α : Type} {t : Table α} {key : String} {value : α}
    (h : t.get? key = some value) : key ∈ t.keys := by
  simp only [Table.get?, Option.map_eq_some_iff] at h
  obtain ⟨entry, hfind, _⟩ := h
  have hmem := List.mem_of_find?_eq_some hfind
  have hkey := List.find?_some hfind
  simp only [beq_iff_eq] at hkey
  exact List.mem_map.mpr ⟨entry, hmem, hkey⟩

theorem Symbols.length_groupsOff_lt {s : Symbols} {path : List String} {name : String}
    {d : AttributeGroupDef} (hpath : path.contains name = false)
    (hname : s.attributeGroups.get? name = some d) :
    (s.groupsOff (path ++ [name])).length < (s.groupsOff path).length := by
  have hmem : name ∈ s.groupsOff path :=
    List.mem_filter.mpr ⟨Table.mem_keys_of_get? hname, by rw [hpath]; rfl⟩
  have heq : s.groupsOff (path ++ [name]) = (s.groupsOff path).filter (· ≠ name) := by
    simp only [Symbols.groupsOff, List.filter_filter]
    congr 1
    funext key
    simp [Bool.and_comm]
  rw [heq]
  exact List.length_filter_lt_length_iff_exists.mpr ⟨name, hmem, by simp⟩

/-- The attributes of a group and of the groups that it refers to. `path` holds the groups that are being
collected. -/
def collectAttributes (s : Symbols) (owner : String) (path : List String) (name : String) :
    CollectedAttributes :=
  if _hpath : path.contains name = false then
    match _hname : s.attributeGroups.get? name with
    | none => ⟨[], [unknownAttributeGroup owner name]⟩
    | some d =>
      (CollectedAttributes.mk d.attributes.entries []).append
        (.concat (d.groupRefs.map fun ref => collectAttributes s owner (path ++ [name]) ref))
  else ⟨[], [circularAttributeGroup owner name]⟩
  termination_by (s.groupsOff path).length
  decreasing_by exact Symbols.length_groupsOff_lt _hpath _hname

/-- Gives a node the attributes of the groups that it refers to. A key that the node has already keeps its
place and takes the new definition. -/
def expandAttributeRefs (m : Model) (id : NodeId) : Resolved :=
  let n := m.node id
  let collected := CollectedAttributes.concat
    (n.attributeGroupRefs.map (collectAttributes m.symbols n.name []))
  ⟨m.modifyNode id fun n => { n with attributes := n.attributes.insertAll collected.entries },
    collected.findings⟩

/-- Gives every node the attributes of the groups that it refers to. -/
def expandAttributeGroups (m : Model) : Resolved :=
  .forEach m m.preorder expandAttributeRefs

end SchemaBinding
