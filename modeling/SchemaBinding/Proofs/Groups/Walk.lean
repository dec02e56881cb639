import SchemaBinding.Proofs.Groups.Substitution
import SchemaBinding.Proofs.Model

/-!
# `SchemaBinding.Proofs.Groups.Walk`: expanding the groups, then walking the nodes

Flattening has two parts. First each declared group is expanded from the top (`Opening`), after which all of them are
known. Then the nodes that the root reaches are walked. Since nothing is left to be expanded, the walk puts known
particles in the place of references (`contentOf`), and notes the references to groups without a definition
(`strayNote?`).

The walk visits each node once, and a node keeps the children that it gets then. `Walked` is the state of the model
between two visits, in terms of the model at the start, so that what the walk has changed below a node does not matter
when the node is reached. `Flattened` says what holds at the end.
-/

set_option autoImplicit false

namespace SchemaBinding

/-! ### The declared groups -/

/-- Groups have been expanded from the top, one after the other. Notes were made, and some groups are known now. -/
inductive Opening (m : Model) : List String → List GroupNote → Table (List NodeId) → Prop where
  | start : Opening m [] [] ∅
  | next {names notes known name result more after} (hbefore : Opening m names notes known)
      (hname : IsDeclared m name)
      (hgroup : Expands m maxGroupDepth [] known (.group name) result more after) :
      Opening m (names ++ [name]) (notes ++ more) after

theorem entered_of_isDeclared {m : Model} {name : String} (h : IsDeclared m name) :
    Entered m maxGroupDepth [] (.group name) := by
  refine entered_nil ?_
  rintro x rfl
  exact Or.inl h

namespace Opening

variable {m : Model} {names : List String} {notes : List GroupNote} {known : Table (List NodeId)}

/-- All groups that have been expanded are known. -/
theorem has (h : Opening m names notes known) {name : String} (hname : name ∈ names) : known.Has name := by
  induction h with
  | start => cases hname
  | next hbefore hdeclared hgroup ih =>
      rcases List.mem_append.mp hname with hname | hname
      · exact hgroup.has_of_has (ih hname)
      · cases List.mem_singleton.mp hname
        exact hgroup.has_of_top hdeclared

theorem isDeclared_of_has (h : Opening m names notes known) {name : String} (hname : known.Has name) :
    IsDeclared m name := by
  induction h generalizing name with
  | start => exact absurd hname (Table.not_has_empty name)
  | next hbefore hdeclared hgroup ih => exact hgroup.isDeclared_of_has (fun x hx => ih hx) hname

theorem sound (h : Opening m names notes known) (hfit : FitsDepth m) : Sound m known := by
  induction h with
  | start => exact sound_empty m
  | next hbefore hdeclared hgroup ih => exact (hgroup.substitutes hfit (entered_of_isDeclared hdeclared) ih).1

/-- The groups of a list are opened one by one. -/
theorem exists_foldl (h : Opening m names notes known) {rest : List String}
    (hrest : ∀ name ∈ rest, IsDeclared m name) :
    ∃ notes' known', Opening m (names ++ rest) notes' known' ∧
      rest.foldl (fun memo name => (expandGroup m maxGroupDepth [] memo name).2)
        (GroupMemo.advance {} notes known) = GroupMemo.advance {} notes' known' := by
  induction rest generalizing names notes known with
  | nil => exact ⟨notes, known, by rwa [List.append_nil], rfl⟩
  | cons name rest ih =>
      obtain ⟨more, after, hgroup, heq⟩ :=
        runsAs_expandGroup m maxGroupDepth [] (GroupMemo.advance {} notes known) name
      have hnext := h.next (hrest name List.mem_cons_self) hgroup
      obtain ⟨notes', known', hopen, hfold⟩ := ih hnext fun x hx => hrest x (List.mem_cons_of_mem name hx)
      refine ⟨notes', known', by rwa [List.append_assoc, List.singleton_append] at hopen, ?_⟩
      rw [List.foldl_cons, heq, GroupMemo.advance_advance, hfold]

end Opening

theorem mem_sortedNames {names : List String} {name : String} : name ∈ sortedNames names ↔ name ∈ names :=
  List.mem_mergeSort

/-- The first part of flattening opens all declared groups. -/
theorem exists_opening (m : Model) :
    ∃ notes known, Opening m (sortedNames m.symbols.elementGroups.keys) notes known ∧
      expandDeclaredGroups m = GroupMemo.advance {} notes known :=
  Opening.start.exists_foldl fun _ hname => Table.has_iff_mem_keys.mpr (mem_sortedNames.mp hname)

/-! ### Splicing when all declared groups are known -/

/-- Every declared group is known, and no other one. -/
def Complete (m : Model) (known : Table (List NodeId)) : Prop := ∀ name, known.Has name ↔ IsDeclared m name

/-- What stands in the place of a particle: the particles of the group if it is a reference, and else the particle. -/
def contentOf (m : Model) (known : Table (List NodeId)) (id : NodeId) : List NodeId :=
  match (m.node id).referencedGroup? with
  | none => [id]
  | some name => (known.get? name).getD [id]

/-- The note about a reference to a group that is not known. -/
def strayNote? (m : Model) (known : Table (List NodeId)) (id : NodeId) : Option GroupNote :=
  match (m.node id).referencedGroup? with
  | none => none
  | some name => if (known.get? name).isSome then none else some (.unknown name)

/-- The notes about the children of a node. -/
def strayNotes (m : Model) (known : Table (List NodeId)) (id : NodeId) : List GroupNote :=
  (m.children id).filterMap (strayNote? m known)

section
variable {m : Model} {known : Table (List NodeId)} {id : NodeId} {name : String}

theorem contentOf_of_none (hid : (m.node id).referencedGroup? = none) : contentOf m known id = [id] := by
  rw [contentOf, hid]

theorem contentOf_of_some (hid : (m.node id).referencedGroup? = some name) :
    contentOf m known id = (known.get? name).getD [id] := by
  rw [contentOf, hid]

theorem strayNote?_of_none (hid : (m.node id).referencedGroup? = none) : strayNote? m known id = none := by
  rw [strayNote?, hid]

theorem strayNote?_of_has (hid : (m.node id).referencedGroup? = some name) (hname : known.Has name) :
    strayNote? m known id = none := by
  rw [strayNote?, hid]
  exact if_pos (Option.isSome_iff_exists.mpr hname)

theorem strayNote?_of_not_has (hid : (m.node id).referencedGroup? = some name) (hname : ¬ known.Has name) :
    strayNote? m known id = some (.unknown name) := by
  rw [strayNote?, hid]
  exact if_neg (fun h => hname (Option.isSome_iff_exists.mp h))

/-- Nothing more is expanded when all declared groups are known. -/
theorem Expands.eq_of_complete (hknown : Complete m known) {room : Nat} {ids : List NodeId}
    {result : Option (List NodeId)} {notes : List GroupNote} {after : Table (List NodeId)}
    (h : Expands m (room + 1) [] known (.particles ids) result notes after) :
    result = some (ids.flatMap (contentOf m known)) ∧ notes = ids.filterMap (strayNote? m known) ∧ after = known := by
  induction ids generalizing result notes with
  | nil =>
      cases h
      exact ⟨rfl, rfl, rfl⟩
  | cons id rest ih =>
      rw [List.flatMap_cons]
      cases h with
      | particle hid hrest =>
          obtain ⟨heq, rfl, rfl⟩ := ih hrest
          cases Option.some.inj heq
          rw [contentOf_of_none hid, List.filterMap_cons_none (strayNote?_of_none hid)]
          exact ⟨rfl, rfl, rfl⟩
      | @reference _ _ _ _ _ name _ _ _ _ _ _ hid hgroup hrest =>
          rw [contentOf_of_some hid]
          cases hgroup with
          | remembered hcontent =>
              obtain ⟨heq, rfl, rfl⟩ := ih hrest
              cases Option.some.inj heq
              rw [List.filterMap_cons_none (strayNote?_of_has hid (Table.has_of_get?_eq hcontent)), hcontent]
              exact ⟨rfl, rfl, rfl⟩
          | circular hnew hpath => cases hpath
          | unknown hnew hpath hnone =>
              obtain ⟨heq, rfl, rfl⟩ := ih hrest
              cases Option.some.inj heq
              rw [List.filterMap_cons_some (strayNote?_of_not_has hid hnew), Table.get?_eq_none_iff.mpr hnew]
              exact ⟨rfl, rfl, rfl⟩
          | defined hnew hpath hid hbody => exact absurd ((hknown name).mpr (Table.has_of_get?_eq hid)) hnew

theorem spliceParticles_of_complete {memo : GroupMemo} (hknown : Complete m memo.expanded) (ids : List NodeId) :
    spliceParticles m (expandGroup m maxGroupDepth []) memo ids =
      (ids.flatMap (contentOf m memo.expanded), memo.tellAll (ids.filterMap (strayNote? m memo.expanded))) := by
  obtain ⟨notes, after, hrun, heq⟩ := runsAs_spliceParticles m maxGroupDepth [] memo ids
  obtain ⟨hresult, rfl, rfl⟩ := hrun.eq_of_complete hknown
  exact Prod.ext (Option.some.inj hresult) (heq.trans (memo.advance_expanded _))

theorem flatMap_contentOf_of_no_reference (known : Table (List NodeId)) {ids : List NodeId}
    (h : ∀ id ∈ ids, (m.node id).kind ≠ .groupRef) :
    ids.flatMap (contentOf m known) = ids ∧ ids.filterMap (strayNote? m known) = [] := by
  have hnone : ∀ id ∈ ids, (m.node id).referencedGroup? = none := fun id hid => if_neg (h id hid)
  constructor
  · rw [List.flatMap_congr fun id hid => contentOf_of_none (hnone id hid), List.flatMap_singleton']
  · exact List.filterMap_eq_nil_iff.mpr fun id hid => strayNote?_of_none (hnone id hid)

end

/-! ### The walk -/

/-- The node with other children. -/
def Node.withChildren (n : Node) (ids : List NodeId) : Node := { n with children := ids }

/-- The walk has come to `seen`, has changed the children of these nodes, and has noted their stray references. -/
structure Walked (m : Model) (memo : GroupMemo) (current : Model) (after : GroupMemo) (seen : List NodeId) :
    Prop where
  size : current.nodes.size = m.nodes.size
  symbols : current.symbols = m.symbols
  node : ∀ id, current.node id =
    if id ∈ seen then (m.node id).withChildren ((m.children id).flatMap (contentOf m memo.expanded)) else m.node id
  told : after = memo.tellAll (seen.flatMap (strayNotes m memo.expanded))

namespace Walked

variable {m current : Model} {memo after : GroupMemo} {seen : List NodeId}

theorem start (m : Model) (memo : GroupMemo) : Walked m memo m memo [] where
  size := rfl
  symbols := rfl
  node := by simp
  told := rfl

theorem referencedGroup? (h : Walked m memo current after seen) (id : NodeId) :
    (current.node id).referencedGroup? = (m.node id).referencedGroup? := by
  rw [h.node]
  split <;> rfl

theorem kind (h : Walked m memo current after seen) (id : NodeId) : (current.node id).kind = (m.node id).kind := by
  rw [h.node]
  split <;> rfl

theorem children_of_mem (h : Walked m memo current after seen) {id : NodeId} (hid : id ∈ seen) :
    current.children id = (m.children id).flatMap (contentOf m memo.expanded) := by
  rw [Model.children, h.node, if_pos hid, Node.withChildren]

theorem children_of_not_mem (h : Walked m memo current after seen) {id : NodeId} (hid : id ∉ seen) :
    current.children id = m.children id := by
  rw [Model.children, h.node, if_neg hid, Model.children]

theorem holds (h : Walked m memo current after seen) (id : NodeId) : current.Holds id ↔ m.Holds id := by
  rw [Model.Holds, Model.Holds, h.size]

theorem expanded (h : Walked m memo current after seen) : after.expanded = memo.expanded := by
  rw [h.told, GroupMemo.expanded_tellAll]

theorem complete (h : Walked m memo current after seen) (hknown : Complete m memo.expanded) :
    Complete current after.expanded := by
  intro name
  rw [h.expanded, hknown name, IsDeclared, IsDeclared, h.symbols]

theorem contentOf_eq (h : Walked m memo current after seen) :
    contentOf current after.expanded = contentOf m memo.expanded := by
  funext id
  rw [contentOf, contentOf, h.referencedGroup?, h.expanded]

theorem strayNote?_eq (h : Walked m memo current after seen) :
    strayNote? current after.expanded = strayNote? m memo.expanded := by
  funext id
  rw [strayNote?, strayNote?, h.referencedGroup?, h.expanded]

/-- The children of a node that is visited are spliced as they were at the start. -/
theorem visit (h : Walked m memo current after seen) (hknown : Complete m memo.expanded) {id : NodeId}
    (hnew : id ∉ seen) (hheld : m.Holds id) :
    Walked m memo (spliceChildren current after id).1 (spliceChildren current after id).2 (seen ++ [id]) := by
  have hchildren := h.children_of_not_mem hnew
  have htold : (after.tellAll ((m.children id).filterMap (strayNote? m memo.expanded))) =
      memo.tellAll ((seen ++ [id]).flatMap (strayNotes m memo.expanded)) := by
    rw [h.told, GroupMemo.tellAll, GroupMemo.tellAll, GroupMemo.tellAll, List.flatMap_append, List.foldl_append]
    simp [strayNotes]
  unfold spliceChildren
  split
  · -- The model has changed since the start, but not the children of this node, nor what is a reference.
    rw [spliceParticles_of_complete (h.complete hknown), h.contentOf_eq, h.strayNote?_eq, hchildren]
    refine ⟨by rw [size_modifyNode, h.size], h.symbols, ?_, htold⟩
    intro x
    change (current.modifyNode id fun n => n.withChildren _).node x = _
    rw [Model.node_modifyNode, h.node]
    by_cases hx : x = id
    · subst hx
      rw [if_pos ⟨rfl, (h.holds x).mpr hheld⟩, if_neg hnew, if_pos (by simp)]
    · rw [if_neg (fun hand => hx hand.1)]
      simp [hx]
  · -- Without a reference among the children, splicing would change nothing.
    rename_i hnone
    have hkinds : ∀ child ∈ m.children id, (m.node child).kind ≠ .groupRef := by
      intro child hchild hkind
      refine hnone (List.any_eq_true.mpr ⟨child, by rwa [hchildren], ?_⟩)
      rw [h.kind, hkind]
      rfl
    obtain ⟨hsame, hnotes⟩ := flatMap_contentOf_of_no_reference memo.expanded hkinds
    refine ⟨h.size, h.symbols, ?_, by rw [← htold, hnotes]; rfl⟩
    intro x
    rw [h.node]
    by_cases hx : x = id
    · subst hx
      rw [if_neg hnew, if_pos (by simp), hsame]
      rfl
    · simp [hx]

end Walked

/-- From the nodes that have been walked, the walk goes on to all of their children. -/
def Closed (m : Model) (known : Table (List NodeId)) (seen work : List NodeId) : Prop :=
  ∀ id ∈ seen, ∀ child ∈ (m.children id).flatMap (contentOf m known), m.Holds child → child ∈ seen ∨ child ∈ work

namespace Closed

variable {m : Model} {known : Table (List NodeId)} {seen rest : List NodeId} {id : NodeId}

/-- A node comes off the work list, and its children go in front. -/
theorem visit (h : Closed m known seen (id :: rest)) :
    Closed m known (seen ++ [id]) ((m.children id).flatMap (contentOf m known) ++ rest) := by
  intro x hx child hchild hheld
  rcases List.mem_append.mp hx with hx | hx
  · rcases h x hx child hchild hheld with hmem | hmem
    · exact Or.inl (List.mem_append_left _ hmem)
    · rcases List.mem_cons.mp hmem with rfl | hmem
      · exact Or.inl (List.mem_append_right _ List.mem_cons_self)
      · exact Or.inr (List.mem_append_right _ hmem)
  · cases List.mem_singleton.mp hx
    exact Or.inr (List.mem_append_left _ hchild)

/-- A node comes off the work list that has been walked before, or that is none. -/
theorem skip (h : Closed m known seen (id :: rest)) (hid : m.Holds id → id ∈ seen) : Closed m known seen rest := by
  intro x hx child hchild hheld
  rcases h x hx child hchild hheld with hmem | hmem
  · exact Or.inl hmem
  · rcases List.mem_cons.mp hmem with rfl | hmem
    · exact Or.inl (hid hheld)
    · exact Or.inr hmem

end Closed

/-- At the end of the walk, the nodes that have been walked are closed, and no work was lost. -/
theorem exists_walked {m : Model} {memo : GroupMemo} (hknown : Complete m memo.expanded) {current : Model}
    {after : GroupMemo} {seen : List NodeId} (h : Walked m memo current after seen) {work : List NodeId}
    (hclosed : Closed m memo.expanded seen work) :
    ∃ all, Walked m memo (spliceReachable current after seen work).1 (spliceReachable current after seen work).2 all ∧
      Closed m memo.expanded all [] ∧ ∀ id, id ∈ seen ∨ id ∈ work → m.Holds id → id ∈ all := by
  fun_induction spliceReachable current after seen work with
  | case1 current after seen =>
      refine ⟨seen, h, hclosed, ?_⟩
      rintro id (hid | hid) -
      · exact hid
      · cases hid
  | case2 current after seen id rest hvisit spliced ih =>
      obtain ⟨hnew, hheld⟩ := hvisit
      have hnew : id ∉ seen := by simpa using hnew
      have hnext : Walked m memo spliced.1 spliced.2 (seen ++ [id]) := h.visit hknown hnew ((h.holds id).mp hheld)
      rw [hnext.children_of_mem (List.mem_append_right seen List.mem_cons_self)] at ih ⊢
      obtain ⟨all, hall, hend, hlost⟩ := ih hnext hclosed.visit
      refine ⟨all, hall, hend, fun x hx => hlost x ?_⟩
      rcases hx with hx | hx
      · exact Or.inl (List.mem_append_left _ hx)
      · rcases List.mem_cons.mp hx with rfl | hx
        · exact Or.inl (List.mem_append_right _ List.mem_cons_self)
        · exact Or.inr (List.mem_append_right _ hx)
  | case3 current after seen id rest hskip ih =>
      have hold : m.Holds id → id ∈ seen := by
        intro hheld
        by_cases hmem : id ∈ seen
        · exact hmem
        · exact absurd ⟨by simpa using hmem, (h.holds id).mpr hheld⟩ hskip
      obtain ⟨all, hall, hend, hlost⟩ := ih h (hclosed.skip hold)
      refine ⟨all, hall, hend, fun x hx hheld => hlost x ?_ hheld⟩
      rcases hx with hx | hx
      · exact Or.inl hx
      · rcases List.mem_cons.mp hx with rfl | hx
        · exact Or.inl (hold hheld)
        · exact Or.inr hx

/-- In the end, all nodes that the root reaches have been walked. -/
theorem Walked.mem_of_reaches {m current : Model} {memo after : GroupMemo} {all : List NodeId}
    (h : Walked m memo current after all) (hclosed : Closed m memo.expanded all [])
    (hroot : m.Holds Model.root → Model.root ∈ all) {id : NodeId} (hreaches : current.Reaches Model.root id)
    (hheld : m.Holds id) : id ∈ all := by
  induction hreaches with
  | refl => exact hroot hheld
  | @tail owner child _ hchild ih =>
      by_cases howner : m.Holds owner
      · rw [h.children_of_mem (ih howner)] at hchild
        exact (hclosed owner (ih howner) child hchild hheld).resolve_right List.not_mem_nil
      · rw [Model.children_of_not_holds (fun hholds => howner ((h.holds owner).mp hholds))] at hchild
        cases hchild

/-! ### The flat model -/

/-- The references below the root have been replaced by what is known of their groups. `notes` tell why references
in known particles have stayed, and `strays` are the notes of the walk. -/
structure Flattened (m : Model) (r : Resolved) (notes : List GroupNote) (known : Table (List NodeId))
    (strays : List GroupNote) : Prop where
  opening : Opening m (sortedNames m.symbols.elementGroups.keys) notes known
  complete : Complete m known
  findings : r.findings = (GroupMemo.tellAll {} (notes ++ strays)).findings
  node : ∀ id, r.model.node id = (m.node id).withChildren (r.model.children id)
  children : ∀ id, r.model.Reaches Model.root id → r.model.children id = (m.children id).flatMap (contentOf m known)
  strays_of_child : ∀ id, r.model.Reaches Model.root id → ∀ child ∈ m.children id, ∀ name,
    (m.node child).referencedGroup? = some name → ¬ IsDeclared m name → .unknown name ∈ strays
  unknown_of_stray : ∀ note ∈ strays, ∃ name, note = .unknown name ∧ IsGroupName m name ∧ ¬ IsDeclared m name

theorem flattenGroups_eq (m : Model) :
    flattenGroups m =
      ⟨(spliceReachable m (expandDeclaredGroups m) [] [Model.root]).1,
        (spliceReachable m (expandDeclaredGroups m) [] [Model.root]).2.findings⟩ := rfl

theorem exists_flattened (m : Model) : ∃ notes known strays, Flattened m (flattenGroups m) notes known strays := by
  obtain ⟨notes, known, hopening, hmemo⟩ := exists_opening m
  have hcomplete : Complete m known := fun name =>
    ⟨hopening.isDeclared_of_has, fun h => hopening.has (mem_sortedNames.mpr (Table.has_iff_mem_keys.mp h))⟩
  rw [flattenGroups_eq, hmemo]
  have hclosed : Closed m known [] [Model.root] := fun id hid => absurd hid List.not_mem_nil
  obtain ⟨all, hwalked, hend, hlost⟩ :=
    exists_walked hcomplete (Walked.start m (GroupMemo.advance {} notes known)) hclosed
  generalize spliceReachable m (GroupMemo.advance {} notes known) [] [Model.root] = walk at hwalked
  have hreached : ∀ id, walk.1.Reaches Model.root id → m.Holds id → id ∈ all := fun id =>
    hwalked.mem_of_reaches hend (hlost Model.root (Or.inr List.mem_cons_self))
  refine ⟨notes, known, all.flatMap (strayNotes m known), ?_⟩
  constructor
  case opening => exact hopening
  case complete => exact hcomplete
  case findings =>
    rw [hwalked.told]
    exact GroupMemo.findings_tellAll_advance {} notes (all.flatMap (strayNotes m known)) known
  case node =>
    intro id
    by_cases hid : id ∈ all
    · rw [hwalked.children_of_mem hid, hwalked.node, if_pos hid]
    · rw [hwalked.children_of_not_mem hid, hwalked.node, if_neg hid]
      rfl
  case children =>
    intro id hreaches
    by_cases hheld : m.Holds id
    · exact hwalked.children_of_mem (hreached id hreaches hheld)
    · rw [Model.children_of_not_holds hheld,
        Model.children_of_not_holds (fun h => hheld ((hwalked.holds id).mp h)), List.flatMap_nil]
  case strays_of_child =>
    intro id hreaches child hchild name hname hnone
    have hheld : m.Holds id := by
      by_cases hheld : m.Holds id
      · exact hheld
      · rw [Model.children_of_not_holds hheld] at hchild
        cases hchild
    refine List.mem_flatMap.mpr ⟨id, hreached id hreaches hheld, List.mem_filterMap.mpr ⟨child, hchild, ?_⟩⟩
    exact strayNote?_of_not_has hname fun h => hnone ((hcomplete name).mp h)
  case unknown_of_stray =>
    intro note hnote
    obtain ⟨id, -, hnote⟩ := List.mem_flatMap.mp hnote
    obtain ⟨child, -, hnote⟩ := List.mem_filterMap.mp hnote
    cases hname : (m.node child).referencedGroup? with
    | none =>
        rw [strayNote?_of_none hname] at hnote
        cases hnote
    | some name =>
        by_cases hhas : known.Has name
        · rw [strayNote?_of_has hname hhas] at hnote
          cases hnote
        · rw [strayNote?_of_not_has hname hhas] at hnote
          exact ⟨name, (Option.some.inj hnote).symm, Or.inr ⟨child, hname⟩, fun h => hhas ((hcomplete name).mpr h)⟩

end SchemaBinding
