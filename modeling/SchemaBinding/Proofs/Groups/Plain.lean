import Mathlib.Data.List.Permutation
import SchemaBinding.Proofs.Groups.Exact

/-!
# `SchemaBinding.Proofs.Groups.Plain`: expansion without a memory

`plainExpansion` expands each reference from scratch. The only references that it leaves are those to groups without a
definition and those to a group that is being expanded around them. Where references reach no cycle, flattening gives
the same lists. In and around cycles it need not. What is known of a group may have been cut short by the groups
around it when it was expanded first, and the pieces that are missing are not looked up again
(`flattenGroups_ne_plainExpansion_mutualGroups`). It never gives a particle that the plain expansion lacks
(`flattenGroups_eq_plainExpansion`).
-/

set_option autoImplicit false

namespace SchemaBinding

open Relation (ReflTransGen)

/-! ### The plain expansion -/

/-- The declared groups that are not on a path. -/
def Symbols.elementGroupsOff (s : Symbols) (path : List String) : List String :=
  s.elementGroups.keys.filter (!path.contains ·)

/-- The definition of a group that is not on the path. -/
def definitionOff? (m : Model) (path : List String) (name : String) : Option NodeId :=
  if path.contains name then none else m.symbols.elementGroups.get? name

theorem definitionOff?_eq_some {m : Model} {path : List String} {name : String} {id : NodeId} :
    definitionOff? m path name = some id ↔ name ∉ path ∧ m.symbols.elementGroups.get? name = some id := by
  unfold definitionOff?
  split <;> simp_all

theorem length_elementGroupsOff_lt {m : Model} {path : List String} {name : String} {id : NodeId}
    (h : definitionOff? m path name = some id) :
    (m.symbols.elementGroupsOff (path ++ [name])).length < (m.symbols.elementGroupsOff path).length := by
  obtain ⟨hpath, hid⟩ := definitionOff?_eq_some.mp h
  have hmem : name ∈ m.symbols.elementGroupsOff path :=
    List.mem_filter.mpr ⟨Table.has_iff_mem_keys.mp ⟨id, hid⟩, by simpa using hpath⟩
  have heq : m.symbols.elementGroupsOff (path ++ [name]) =
      (m.symbols.elementGroupsOff path).filter (· ≠ name) := by
    rw [Symbols.elementGroupsOff, Symbols.elementGroupsOff, List.filter_filter]
    refine List.filter_congr fun key _ => ?_
    simp [Bool.and_comm]
  rw [heq]
  exact List.length_filter_lt_length_iff_exists.mpr ⟨name, hmem, by simp⟩

/-- The particles with the references expanded. A reference stays if its group has no definition or is on the path,
which holds the groups around it. -/
def plainExpansion (m : Model) (path : List String) : List NodeId → List NodeId
  | [] => []
  | id :: rest =>
    match (m.node id).referencedGroup? with
    | none => id :: plainExpansion m path rest
    | some name =>
      match _h : definitionOff? m path name with
      | none => id :: plainExpansion m path rest
      | some definition => plainExpansion m (path ++ [name]) (m.children definition) ++ plainExpansion m path rest
  termination_by ids => ((m.symbols.elementGroupsOff path).length, ids.length)
  decreasing_by
    · exact Prod.Lex.right _ (by simp)
    · exact Prod.Lex.right _ (by simp)
    · exact Prod.Lex.left _ _ (length_elementGroupsOff_lt _h)
    · exact Prod.Lex.right _ (by simp)

section
variable {m : Model} {path : List String} {ids rest : List NodeId} {id : NodeId} {name : String}

theorem plainExpansion_of_particle (hid : (m.node id).referencedGroup? = none) :
    plainExpansion m path (id :: rest) = id :: plainExpansion m path rest := by
  rw [plainExpansion, hid]

theorem plainExpansion_of_stays (hid : (m.node id).referencedGroup? = some name)
    (hnone : definitionOff? m path name = none) :
    plainExpansion m path (id :: rest) = id :: plainExpansion m path rest := by
  rw [plainExpansion, hid]
  dsimp only
  split
  · rfl
  · rename_i hdefinition
    rw [hnone] at hdefinition
    cases hdefinition

theorem plainExpansion_of_reference {definition : NodeId} (hid : (m.node id).referencedGroup? = some name)
    (hdefinition : definitionOff? m path name = some definition) :
    plainExpansion m path (id :: rest) =
      plainExpansion m (path ++ [name]) (m.children definition) ++ plainExpansion m path rest := by
  rw [plainExpansion, hid]
  dsimp only
  split
  · rename_i hnone
    rw [hdefinition] at hnone
    cases hnone
  · rename_i hdefinition'
    rw [Option.some.inj (hdefinition.symm.trans hdefinition')]

/-! ### Away from cycles -/

/-- The substitution is the plain expansion, if no references lead to a cycle or back to the path. -/
theorem Substituted.eq_plainExpansion {particles : List NodeId} (h : Substituted m ids particles)
    (hacyclic : ∀ x, (GroupTask.particles ids).Needs m x → ReachesNoCycle m x)
    (hpath : ∀ x, (GroupTask.particles ids).Needs m x → ∀ y, ReflTransGen (Refers m) x y → y ∉ path) :
    particles = plainExpansion m path ids := by
  induction h generalizing path with
  | nil => rw [plainExpansion]
  | particle hid hrest ih =>
      rw [plainExpansion_of_particle hid, ih (fun x hx => hacyclic x (hx.cons _)) fun x hx => hpath x (hx.cons _)]
  | unknown hid hnone hrest ih =>
      have hoff : definitionOff? m path _ = none :=
        Option.eq_none_iff_forall_ne_some.mpr fun definition h =>
          hnone ⟨definition, (definitionOff?_eq_some.mp h).2⟩
      rw [plainExpansion_of_stays hid hoff, ih (fun x hx => hacyclic x (hx.cons _)) fun x hx => hpath x (hx.cons _)]
  | @reference id rest name definition content others hid hdefinition hcontent hrest ihcontent ihrest =>
      have hneeds : (GroupTask.particles (id :: rest)).Needs m name := GroupTask.needs_head hid rest
      have hoff : definitionOff? m path name = some definition :=
        definitionOff?_eq_some.mpr ⟨hpath name hneeds name .refl, hdefinition⟩
      rw [plainExpansion_of_reference hid hoff,
        ihrest (fun x hx => hacyclic x (hx.cons _)) fun x hx => hpath x (hx.cons _)]
      congr 1
      refine ihcontent (fun x hx => ?_) fun x hx y hy => ?_
      · exact (hacyclic name hneeds).target ⟨definition, hdefinition, hx⟩
      · -- A way back to the group would make a cycle.
        have href : Refers m name x := ⟨definition, hdefinition, hx⟩
        rw [List.mem_append, List.mem_singleton, not_or]
        refine ⟨hpath name hneeds y (.head href hy), ?_⟩
        rintro rfl
        exact hacyclic y hneeds y .refl (.head' href hy)

/-! ### In and around cycles -/

/-- A group has the particle in its definition, or references lead from it to one that does. -/
def Offers (m : Model) (name : String) (p : NodeId) : Prop :=
  ∃ x definition, ReflTransGen (Refers m) name x ∧ m.symbols.elementGroups.get? x = some definition ∧
    p ∈ m.children definition

theorem Offers.of_refers {target : String} {p : NodeId} (href : Refers m name target) (h : Offers m target p) :
    Offers m name p := by
  obtain ⟨x, definition, hx, hdefinition, hp⟩ := h
  exact ⟨x, definition, .head href hx, hdefinition, hp⟩

/-- A task may result in the particle. -/
def GroupTask.Offers (m : Model) : GroupTask → NodeId → Prop
  | group name, p => SchemaBinding.Offers m name p
  | particles ids, p => p ∈ ids ∨ ∃ x, (particles ids).Needs m x ∧ SchemaBinding.Offers m x p

theorem GroupTask.Offers.cons {p : NodeId} (h : (GroupTask.particles rest).Offers m p) (id : NodeId) :
    (GroupTask.particles (id :: rest)).Offers m p := by
  rcases h with hp | ⟨x, hx, hp⟩
  · exact Or.inl (List.mem_cons_of_mem id hp)
  · exact Or.inr ⟨x, hx.cons id, hp⟩

/-- Besides references, only particles are known that the groups offer. -/
def Offered (m : Model) (known : Table (List NodeId)) : Prop :=
  ∀ name particles, known.get? name = some particles →
    ∀ p ∈ particles, (m.node p).referencedGroup? = none → Offers m name p

/-- An expansion results in particles that are offered. -/
theorem Expands.offered {room : Nat} {known after : Table (List NodeId)} {task : GroupTask}
    {result : Option (List NodeId)} {notes : List GroupNote} (h : Expands m room path known task result notes after)
    (hknown : Offered m known) :
    Offered m after ∧ ∀ particles, result = some particles →
      ∀ p ∈ particles, (m.node p).referencedGroup? = none → task.Offers m p := by
  induction h with
  | remembered hparticles =>
      refine ⟨hknown, ?_⟩
      rintro _ ⟨⟩
      exact hknown _ _ hparticles
  | circular | deep | unknown => exact ⟨hknown, by simp⟩
  | @defined room path known name id particles notes after hnew hpath hid hbody ih =>
      obtain ⟨hafter, hoffered⟩ := ih hknown
      have hright : ∀ p ∈ particles, (m.node p).referencedGroup? = none → SchemaBinding.Offers m name p := by
        intro p hp hnone
        rcases hoffered particles rfl p hp hnone with hp | ⟨x, hx, hp⟩
        · exact ⟨name, id, .refl, hid, hp⟩
        · exact hp.of_refers ⟨id, hid, hx⟩
      refine ⟨Table.forall_get?_insert hafter hright, ?_⟩
      rintro _ ⟨⟩
      exact hright
  | nil => exact ⟨hknown, by simp⟩
  | particle hid hrest ih =>
      obtain ⟨hafter, hoffered⟩ := ih hknown
      refine ⟨hafter, ?_⟩
      rintro _ ⟨⟩ p hp hnone
      rcases List.mem_cons.mp hp with rfl | hp
      · exact Or.inl List.mem_cons_self
      · exact (hoffered _ rfl p hp hnone).cons _
  | @reference room path known id rest name content notes after others more last hid hgroup hrest ihgroup ihrest =>
      obtain ⟨hbetween, hcontent⟩ := ihgroup hknown
      obtain ⟨hlast, hothers⟩ := ihrest hbetween
      refine ⟨hlast, ?_⟩
      rintro _ ⟨⟩ p hp hnone
      rcases List.mem_append.mp hp with hp | hp
      · cases content with
        | none =>
            rw [List.mem_singleton.mp hp, hid] at hnone
            cases hnone
        | some particles => exact Or.inr ⟨name, GroupTask.needs_head hid rest, hcontent particles rfl p hp hnone⟩
      · exact (hothers others rfl p hp hnone).cons id

theorem Opening.offered {names : List String} {notes : List GroupNote} {known : Table (List NodeId)}
    (h : Opening m names notes known) : Offered m known := by
  induction h with
  | start => exact fun name particles hparticles => absurd hparticles (Table.get?_empty_ne name particles)
  | next hbefore hdeclared hgroup ih => exact (hgroup.offered ih).1

/-- Particles besides references are kept. -/
theorem mem_plainExpansion_of_mem {p : NodeId} (hp : p ∈ ids) (hnone : (m.node p).referencedGroup? = none) :
    p ∈ plainExpansion m path ids := by
  fun_induction plainExpansion m path ids with
  | case1 path => cases hp
  | case2 path id rest hid ih =>
      rcases List.mem_cons.mp hp with rfl | hp
      · exact List.mem_cons_self
      · exact List.mem_cons_of_mem id (ih hp)
  | case3 path id rest name hid hoff ih =>
      rcases List.mem_cons.mp hp with rfl | hp
      · exact List.mem_cons_self
      · exact List.mem_cons_of_mem id (ih hp)
  | case4 path id rest name hid definition hoff ihcontent ihrest =>
      rcases List.mem_cons.mp hp with rfl | hp
      · rw [hid] at hnone
        cases hnone
      · exact List.mem_append_right _ (ihrest hp)

/-- A way from a group is at its end there, or it leaves the group for the last time and does not come back. -/
theorem eq_or_exists_last_departure {α : Type} {r : α → α → Prop} {a x : α} (h : ReflTransGen r a x) :
    x = a ∨ ∃ b, b ≠ a ∧ r a b ∧ ReflTransGen (fun u v => r u v ∧ v ≠ a) b x := by
  induction h with
  | refl => exact Or.inl rfl
  | @tail y x _ hlast ih =>
      by_cases hx : x = a
      · exact Or.inl hx
      · rcases ih with rfl | ⟨b, hb, hfirst, hrest⟩
        · exact Or.inr ⟨x, hx, hlast, .refl⟩
        · exact Or.inr ⟨b, hb, hfirst, hrest.tail ⟨hlast, hx⟩⟩

/-- The plain expansion has all particles that references lead to, if they do not lead through the path. -/
theorem mem_plainExpansion_of_reflTransGen {p : NodeId} (hnone : (m.node p).referencedGroup? = none) {x : String}
    {definition : NodeId} (hdefinition : m.symbols.elementGroups.get? x = some definition)
    (hp : p ∈ m.children definition) (hname : (GroupTask.particles ids).Needs m name) (hpath : name ∉ path)
    (hway : ReflTransGen (fun u v => Refers m u v ∧ v ∉ path) name x) : p ∈ plainExpansion m path ids := by
  fun_induction plainExpansion m path ids generalizing name with
  | case1 path =>
      obtain ⟨child, hchild, -⟩ := hname
      cases hchild
  | case2 path id rest hid ih =>
      obtain ⟨child, hchild, hname⟩ := hname
      rcases List.mem_cons.mp hchild with rfl | hchild
      · rw [hid] at hname
        cases hname
      · exact List.mem_cons_of_mem id (ih ⟨child, hchild, hname⟩ hpath hway)
  | case3 path id rest target hid hoff ih =>
      obtain ⟨child, hchild, hname⟩ := hname
      rcases List.mem_cons.mp hchild with rfl | hchild
      · cases Option.some.inj (hid.symm.trans hname)
        -- The group has a definition, or the way would end here.
        have hdeclared : IsDeclared m target := by
          rcases ReflTransGen.cases_head hway with rfl | ⟨next, hfirst, -⟩
          · exact ⟨definition, hdefinition⟩
          · exact hfirst.1.isDeclared
        obtain ⟨own, hown⟩ := hdeclared
        rw [definitionOff?_eq_some.mpr ⟨hpath, hown⟩] at hoff
        cases hoff
      · exact List.mem_cons_of_mem id (ih ⟨child, hchild, hname⟩ hpath hway)
  | case4 path id rest target hid own hoff ihcontent ihrest =>
      obtain ⟨child, hchild, hname⟩ := hname
      rcases List.mem_cons.mp hchild with rfl | hchild
      · cases Option.some.inj (hid.symm.trans hname)
        obtain ⟨-, hown⟩ := definitionOff?_eq_some.mp hoff
        refine List.mem_append_left _ ?_
        -- From its last departure on, the way does not come back to the group, which is on the path then.
        rcases eq_or_exists_last_departure hway with rfl | ⟨next, hne, hfirst, hrest⟩
        · rw [Option.some.inj (hdefinition.symm.trans hown)] at hp
          exact mem_plainExpansion_of_mem hp hnone
        · obtain ⟨⟨own', hown', hneeds⟩, hnext⟩ := hfirst
          rw [Option.some.inj (hown'.symm.trans hown)] at hneeds
          refine ihcontent hneeds (by simp [hnext, hne]) (ReflTransGen.mono (fun u v huv => ?_) _ _ hrest)
          exact ⟨huv.1.1, by simp [huv.1.2, huv.2]⟩
      · exact List.mem_append_right _ (ihrest ⟨child, hchild, hname⟩ hpath hway)

theorem Offers.mem_plainExpansion {p : NodeId} (h : Offers m name p) (hnone : (m.node p).referencedGroup? = none)
    (hname : (GroupTask.particles ids).Needs m name) : p ∈ plainExpansion m [] ids := by
  obtain ⟨x, definition, hway, hdefinition, hp⟩ := h
  refine mem_plainExpansion_of_reflTransGen hnone hdefinition hp hname List.not_mem_nil ?_
  exact ReflTransGen.mono (fun u v huv => ⟨huv, List.not_mem_nil⟩) _ _ hway

end

/-! ### Flattening and the plain expansion -/

/-- With few declared groups, no node gets a particle that the plain expansion of its references lacks. A node whose
references reach no cycle gets exactly the plain expansion. -/
theorem flattenGroups_eq_plainExpansion {m : Model} (hfew : m.symbols.elementGroups.size ≤ maxGroupDepth)
    {id : NodeId} (hreaches : (flattenGroups m).model.Reaches Model.root id) :
    (∀ p ∈ (flattenGroups m).model.children id, (m.node p).referencedGroup? = none →
      p ∈ plainExpansion m [] (m.children id)) ∧
    ((∀ child ∈ m.children id, ∀ name, (m.node child).referencedGroup? = some name → ReachesNoCycle m name) →
      (flattenGroups m).model.children id = plainExpansion m [] (m.children id)) := by
  obtain ⟨notes, known, strays, hflat⟩ := exists_flattened m
  rw [hflat.children id hreaches]
  constructor
  · intro p hp hnone
    obtain ⟨child, hchild, hp⟩ := List.mem_flatMap.mp hp
    cases hname : (m.node child).referencedGroup? with
    | none =>
        rw [contentOf_of_none hname] at hp
        cases List.mem_singleton.mp hp
        exact mem_plainExpansion_of_mem hchild hnone
    | some name =>
        rw [contentOf_of_some hname] at hp
        cases hknown : known.get? name with
        | none =>
            rw [hknown] at hp
            cases List.mem_singleton.mp hp
            rw [hname] at hnone
            cases hnone
        | some particles =>
            rw [hknown] at hp
            have hoffers : Offers m name p := hflat.opening.offered name particles hknown p hp hnone
            exact hoffers.mem_plainExpansion hnone ⟨child, hchild, hname⟩
  · intro hacyclic
    have hneeds : ∀ x, (GroupTask.particles (m.children id)).Needs m x → ReachesNoCycle m x :=
      fun x ⟨child, hchild, hx⟩ => hacyclic child hchild x hx
    have hsound : Sound m known := hflat.opening.sound (fitsDepth_of_size_le hfew)
    exact (hsound.substituted hflat.complete hneeds).eq_plainExpansion hneeds fun _ _ _ _ => List.not_mem_nil

set_option maxRecDepth 20000 in
/-- The type of `partsInParts`, which refers to no cycle, gets the plain expansion. -/
theorem flattenGroups_eq_plainExpansion_partsInParts :
    partsInParts.symbols.elementGroups.size ≤ maxGroupDepth ∧
    (flattenGroups partsInParts).model.Reaches Model.root ⟨6⟩ ∧
      (flattenGroups partsInParts).model.children ⟨6⟩ =
        plainExpansion partsInParts [] (partsInParts.children ⟨6⟩) := by
  have hfew : partsInParts.symbols.elementGroups.size ≤ maxGroupDepth := by decide
  have hroot : (flattenGroups partsInParts).model.children Model.root = [⟨6⟩] := by cbv
  have hreaches : (flattenGroups partsInParts).model.Reaches Model.root ⟨6⟩ :=
    .single (by rw [hroot]; exact List.mem_cons_self)
  have hacyclic : ∀ name, ReachesNoCycle partsInParts name := fun _ x _ => not_onCycle_partsInParts x
  exact ⟨hfew, hreaches, (flattenGroups_eq_plainExpansion hfew hreaches).2 fun _ _ name _ => hacyclic name⟩

/-- The groups `A` and `B` refer to each other, and the type `T` refers to `B`. -/
def mutualGroups : Model where
  nodes := #[taggedNode .schema "schema" false [⟨7⟩],
    taggedNode .group "A" true [⟨2⟩, ⟨3⟩], taggedNode .element "a" false [], taggedNode .groupRef "B" false [],
    taggedNode .group "B" true [⟨5⟩, ⟨6⟩], taggedNode .element "b" false [], taggedNode .groupRef "A" false [],
    taggedNode .complexType "T" true [⟨8⟩], taggedNode .groupRef "B" false []]
  symbols := { elementGroups := .ofList [("A", ⟨1⟩), ("B", ⟨4⟩)] }
  builtins := ⟨""⟩

theorem isBuilt_mutualGroups : mutualGroups.IsBuilt := by
  let group (name part target : String) := enclosed "group" [("name", name)]
    (enclosed "element" [("name", part)] [] ++ enclosed "group" [("ref", target)] [])
  let type := enclosed "complexType" [("name", "T")] (enclosed "group" [("ref", "B")] [])
  let groups := group "A" "a" "B" ++ group "B" "b" "A"
  have hread : (Model.ofEvents none (enclosed "schema" [] (groups ++ type))).toOption = some mutualGroups := by
    decide
  exact Model.isBuilt_of_toOption_eq hread

set_option maxRecDepth 20000 in
/-- What is known of `B` was expanded inside of `A`, so that the type does not get the element of `A`. -/
theorem flattenGroups_ne_plainExpansion_mutualGroups :
    mutualGroups.IsBuilt ∧ mutualGroups.symbols.elementGroups.size ≤ maxGroupDepth ∧
    (flattenGroups mutualGroups).model.Reaches Model.root ⟨7⟩ ∧
    (flattenGroups mutualGroups).model.children ⟨7⟩ = [⟨5⟩, ⟨6⟩] ∧
      plainExpansion mutualGroups [] (mutualGroups.children ⟨7⟩) = [⟨5⟩, ⟨2⟩, ⟨3⟩] := by
  have hroot : (flattenGroups mutualGroups).model.children Model.root = [⟨7⟩] := by cbv
  have htype : (flattenGroups mutualGroups).model.children ⟨7⟩ = [⟨5⟩, ⟨6⟩] := by cbv
  have hplain : plainExpansion mutualGroups [] (mutualGroups.children ⟨7⟩) = [⟨5⟩, ⟨2⟩, ⟨3⟩] := by cbv
  have hreaches : (flattenGroups mutualGroups).model.Reaches Model.root ⟨7⟩ :=
    .single (by rw [hroot]; exact List.mem_cons_self)
  exact ⟨isBuilt_mutualGroups, by decide, hreaches, htype, hplain⟩

end SchemaBinding
