import SchemaBinding.Proofs.Groups.Plain
import SchemaBinding.Proofs.Groups.Remainder

/-!
# `SchemaBinding.Proofs.Groups.Safety`: no reference is lost

Flattening is a total function, so it comes to an end on every model. What bounds an expansion is the depth limit of
the program, and what bounds the walk are the nodes that it has not come to. A cycle of groups is reported if there is
one, and once for its groups. A reference that is left below the root has a warning that names its group
(`flattenGroups_safe`).

The warnings are told apart by keys, in which names are joined by spaces. So names of groups are taken to be words,
those of declared groups and those that references give (`NamesAreWords`).
-/

set_option autoImplicit false

namespace SchemaBinding

/-- The names of groups hold no spaces. -/
def NamesAreWords (m : Model) : Prop := ∀ name, IsGroupName m name → IsWord name

theorem GroupNote.node_diagnostic (note : GroupNote) : note.diagnostic.node = note.name := by
  cases note <;> rfl

section
variable {m : Model} (hwords : NamesAreWords m)
include hwords

theorem GroupNote.Valid.isWord_of_mem {path : List String} {name : String}
    (h : (GroupNote.circular path name).Valid m) : ∀ x ∈ path, IsWord x :=
  fun x hx => hwords x (Or.inl (isDeclared_of_isChain h.2.2 hx))

/-- The key of a cycle is not the key of an unknown group. -/
theorem GroupNote.Valid.cycleKey_ne {path : List String} {name unknown : String}
    (h : (GroupNote.circular path name).Valid m) (h' : (GroupNote.unknown unknown).Valid m) :
    cycleKey path name ≠ "unknown " ++ unknown :=
  cycleKey_ne_of_not_mem h.2.1 (h.isWord_of_mem hwords) (hwords unknown h'.1)
    fun hmem => h'.2 (isDeclared_of_isChain h.2.2 hmem)

/-- Notes with one key name one group. -/
theorem GroupNote.name_eq_of_key?_eq {notes : List GroupNote} (hvalid : ∀ note ∈ notes, note.Valid m)
    (hapart : Apart notes) {note other : GroupNote} (hnote : note ∈ notes) (hother : other ∈ notes) {key : String}
    (hkey : note.key? = some key) (hkey' : other.key? = some key) : other.name = note.name := by
  have hv := hvalid note hnote
  have hv' := hvalid other hother
  cases note with
  | circular path name =>
      cases other with
      | circular path' name' =>
          have hsame : cycleKey path' name' = cycleKey path name := Option.some.inj (hkey'.trans hkey.symm)
          exact hapart _ _ _ _ hother hnote
            (perm_of_cycleKey_eq hv'.2.1 (hv'.isWord_of_mem hwords) hv.2.1 (hv.isWord_of_mem hwords) hsame)
      | deep path' name' => cases hkey'
      | unknown name' => exact absurd (Option.some.inj (hkey.trans hkey'.symm)) (hv.cycleKey_ne hwords hv')
  | deep path name => cases hkey
  | unknown name =>
      cases other with
      | circular path' name' => exact absurd (Option.some.inj (hkey'.trans hkey.symm)) (hv'.cycleKey_ne hwords hv)
      | deep path' name' => cases hkey'
      | unknown name' => exact (String.append_right_inj "unknown ").mp (Option.some.inj (hkey'.trans hkey.symm))

/-- Where some cycle was noted, some cycle is told. -/
theorem Told.exists_circular {notes told : List GroupNote} {memo : GroupMemo} (h : Told notes told memo)
    (hvalid : ∀ note ∈ notes, note.Valid m) {path : List String} {name : String}
    (hnote : .circular path name ∈ notes) : ∃ path' name', .circular path' name' ∈ told := by
  obtain ⟨other, hother, rfl | ⟨key, hkey, hkey'⟩⟩ := h.covered _ hnote
  · exact ⟨path, name, hother⟩
  · cases other with
    | circular path' name' => exact ⟨path', name', hother⟩
    | deep path' name' => cases hkey'
    | unknown name' =>
        exact absurd (Option.some.inj (hkey.trans hkey'.symm))
          ((hvalid _ hnote).cycleKey_ne hwords (hvalid _ (h.subset hother)))

/-- A group that was noted is told of. -/
theorem Told.exists_of_noted {notes told : List GroupNote} {memo : GroupMemo} (h : Told notes told memo)
    (hvalid : ∀ note ∈ notes, note.Valid m) (hapart : Apart notes) {name : String} (hname : Noted notes name) :
    Noted told name := by
  obtain ⟨note, hnote, rfl⟩ := hname
  obtain ⟨other, hother, rfl | ⟨key, hkey, hkey'⟩⟩ := h.covered note hnote
  · exact ⟨other, hother, rfl⟩
  · exact ⟨other, hother, GroupNote.name_eq_of_key?_eq hwords hvalid hapart hnote (h.subset hother) hkey hkey'⟩

end

/-! ### The whole flattening -/

namespace Flattened

variable {m : Model} {r : Resolved} {notes strays : List GroupNote} {known : Table (List NodeId)}

theorem circular_mem (h : Flattened m r notes known strays) {path : List String} {name : String}
    (hnote : .circular path name ∈ notes ++ strays) : .circular path name ∈ notes := by
  rcases List.mem_append.mp hnote with hnote | hnote
  · exact hnote
  · obtain ⟨unknown, heq, -⟩ := h.unknown_of_stray _ hnote
    cases heq

theorem apart (h : Flattened m r notes known strays) : Apart (notes ++ strays) :=
  fun path name path' name' hnote hnote' =>
    h.opening.apart.2 path name path' name' (h.circular_mem hnote) (h.circular_mem hnote')

/-- Every reference that is left below the root is noted. -/
theorem noted (h : Flattened m r notes known strays) {id child : NodeId} (hreaches : r.model.Reaches Model.root id)
    (hchild : child ∈ r.model.children id) {name : String} (hname : (m.node child).referencedGroup? = some name) :
    Noted (notes ++ strays) name := by
  rw [h.children id hreaches] at hchild
  obtain ⟨origin, horigin, hchild⟩ := List.mem_flatMap.mp hchild
  cases horiginname : (m.node origin).referencedGroup? with
  | none =>
      rw [contentOf_of_none horiginname, List.mem_singleton] at hchild
      subst hchild
      rw [horiginname] at hname
      cases hname
  | some target =>
      rw [contentOf_of_some horiginname] at hchild
      cases htarget : known.get? target with
      | some particles =>
          rw [htarget] at hchild
          exact (h.opening.accounted target particles htarget child hchild name hname).append strays
      | none =>
          rw [htarget, Option.getD_none, List.mem_singleton] at hchild
          subst hchild
          have hnone : ¬ IsDeclared m name := by
            rw [← Option.some.inj (horiginname.symm.trans hname), ← h.complete target]
            exact Table.get?_eq_none_iff.mp htarget
          have hstray := h.strays_of_child id hreaches child horigin name hname hnone
          exact ⟨.unknown name, List.mem_append_right notes hstray, rfl⟩

end Flattened

/-- What the findings say about cycles and about references that are left. -/
structure CycleSafety (m : Model) (r : Resolved) : Prop where
  /-- A circular reference is reported if and only if references between groups go in a circle. -/
  reported_iff : m.symbols.elementGroups.size ≤ maxGroupDepth →
    (r.findings.matching "circular group reference" ≠ [] ↔ ∃ name, OnCycle m name)
  /-- Each report is about references that do go in a circle, and no two are about the same groups. -/
  reported_once : ∃ cycles : List (List String × String),
    (r.findings.matching "circular group reference" = cycles.map fun cycle => circularGroup cycle.1 cycle.2) ∧
    (∀ cycle ∈ cycles, cycle.1.Nodup ∧ cycle.2 ∈ cycle.1 ∧ (cycle.1 ++ [cycle.2]).IsChain (Refers m)) ∧
      (cycles.map fun cycle => (loopOf cycle.1 cycle.2).toFinset).Nodup
  /-- A reference that is left below the root has a warning under the name of its group, which is about a circle,
  about an unknown group or about the depth. -/
  left_noted : ∀ id, r.model.Reaches Model.root id → ∀ child ∈ r.model.children id,
    (r.model.node child).kind = .groupRef →
      ∃ name, (r.model.node child).groupRef = some name ∧
        ∃ note : GroupNote, note.diagnostic ∈ r.findings ∧ note.diagnostic.node = name

/-- In a built model whose groups have words for names, cycles are reported and no reference is left silently. -/
theorem flattenGroups_safe {m : Model} (hbuilt : m.IsBuilt) (hwords : NamesAreWords m) :
    CycleSafety m (flattenGroups m) := by
  obtain ⟨notes, known, strays, hflat⟩ := exists_flattened m
  obtain ⟨told, htold⟩ := exists_told (notes ++ strays)
  have hvalid : ∀ note ∈ notes ++ strays, note.Valid m := fun note hnote => hflat.valid hnote
  have hfindings : (flattenGroups m).findings = told.map GroupNote.diagnostic :=
    hflat.findings.trans htold.findings
  have hmatching : (flattenGroups m).findings.matching "circular group reference" =
      (told.filterMap GroupNote.cycle?).map fun cycle => circularGroup cycle.1 cycle.2 := by
    rw [hfindings, matching_circular]
  have hcycles : ∀ cycle ∈ told.filterMap GroupNote.cycle?, (GroupNote.circular cycle.1 cycle.2) ∈ told := by
    intro cycle hcycle
    obtain ⟨note, hnote, heq⟩ := List.mem_filterMap.mp hcycle
    rwa [← GroupNote.cycle?_eq_some.mp heq]
  constructor
  case reported_iff =>
    intro hfew
    rw [hmatching, Ne, List.map_eq_nil_iff]
    constructor
    · intro hne
      obtain ⟨cycle, hcycle⟩ := List.exists_mem_of_ne_nil _ hne
      exact ⟨cycle.2, (hvalid _ (htold.subset (hcycles cycle hcycle))).onCycle⟩
    · rintro ⟨name, hcycle⟩ hnil
      have hquiet : ∀ path name, .circular path name ∉ notes := by
        intro path name hnote
        obtain ⟨path', name', htold'⟩ := htold.exists_circular hwords hvalid (List.mem_append_left strays hnote)
        have hmem : (path', name') ∈ told.filterMap GroupNote.cycle? := List.mem_filterMap.mpr ⟨_, htold', rfl⟩
        rw [hnil] at hmem
        cases hmem
      have hknown : known.Has name := (hflat.complete name).mpr hcycle.isDeclared
      exact hflat.opening.acyclic (fitsDepth_of_size_le hfew) hquiet hknown name .refl hcycle
  case reported_once =>
    refine ⟨told.filterMap GroupNote.cycle?, hmatching, ?_, ?_⟩
    · exact fun cycle hcycle => hvalid _ (htold.subset (hcycles cycle hcycle))
    · exact htold.nodup_loops fun path name hnote => (hvalid _ hnote).1
  case left_noted =>
    intro id hreaches child hchild hkind
    rw [hflat.node] at hkind
    have hname : (m.node child).groupRef = some (m.node child).name := hbuilt.groupRef_eq hkind
    have hnoted := hflat.noted hreaches hchild ((if_pos hkind).trans hname)
    obtain ⟨note, hnote, heq⟩ := htold.exists_of_noted hwords hvalid hflat.apart hnoted
    refine ⟨(m.node child).name, by rw [hflat.node]; exact hname, note, ?_, note.node_diagnostic.trans heq⟩
    rw [hfindings]
    exact List.mem_map_of_mem hnote

theorem flattenGroups_safe_mutualGroups :
    mutualGroups.IsBuilt ∧ NamesAreWords mutualGroups ∧ CycleSafety mutualGroups (flattenGroups mutualGroups) := by
  have hkeys : ∀ name ∈ mutualGroups.symbols.elementGroups.keys, IsWord name := by
    unfold IsWord
    decide
  have hnodes : ∀ n ∈ mutualGroups.nodes.toList, ∀ name ∈ n.referencedGroup?, IsWord name := by
    unfold IsWord
    decide
  have hwords : NamesAreWords mutualGroups := by
    rintro name (hname | ⟨id, hid⟩)
    · exact hkeys name (Table.has_iff_mem_keys.mp hname)
    · exact forall_referencedGroup? hnodes hid
  exact ⟨isBuilt_mutualGroups, hwords, flattenGroups_safe isBuilt_mutualGroups hwords⟩

end SchemaBinding
