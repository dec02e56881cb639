import SchemaBinding.Proofs.Groups.Expansion

/-!
# `SchemaBinding.Proofs.Groups.Substitution`: references replaced all the way down

`Substituted` says what a list of particles becomes when each reference in it is replaced by the particles of its
group, in which references have been replaced in the same way. A list has at most one such result
(`Substituted.unique`), and it has one only if replacing comes to an end.

What is known of groups is sound when it is right for all groups that reach no cycle (`Sound`). An expansion keeps
that, and it substitutes where it comes upon no cycle, whatever the groups around it are and whatever was expanded
before (`Expands.substitutes`).
-/

set_option autoImplicit false

namespace SchemaBinding

/-- The second list is the first one with the references in it replaced. A reference to a group without a definition
stays. -/
inductive Substituted (m : Model) : List NodeId → List NodeId → Prop where
  | nil : Substituted m [] []
  | particle {id rest others} (hid : (m.node id).referencedGroup? = none) (hrest : Substituted m rest others) :
      Substituted m (id :: rest) (id :: others)
  | unknown {id rest name others} (hid : (m.node id).referencedGroup? = some name) (hnone : ¬ IsDeclared m name)
      (hrest : Substituted m rest others) : Substituted m (id :: rest) (id :: others)
  | reference {id rest name definition content others} (hid : (m.node id).referencedGroup? = some name)
      (hdefinition : m.symbols.elementGroups.get? name = some definition)
      (hcontent : Substituted m (m.children definition) content) (hrest : Substituted m rest others) :
      Substituted m (id :: rest) (content ++ others)

namespace Substituted

variable {m : Model} {ids particles : List NodeId}

theorem unique {others : List NodeId} (h : Substituted m ids particles) (h' : Substituted m ids others) :
    particles = others := by
  induction h generalizing others with
  | nil =>
      cases h'
      rfl
  | particle hid hrest ih =>
      cases h' with
      | particle hid' hrest' => rw [ih hrest']
      | unknown hid' hnone hrest' | reference hid' hdefinition hcontent hrest' => simp [hid] at hid'
  | unknown hid hnone hrest ih =>
      cases h' with
      | particle hid' hrest' => simp [hid] at hid'
      | unknown hid' hnone' hrest' => rw [ih hrest']
      | reference hid' hdefinition hcontent hrest' =>
          cases Option.some.inj (hid.symm.trans hid')
          exact absurd (Table.has_of_get?_eq hdefinition) hnone
  | reference hid hdefinition hcontent hrest ihcontent ihrest =>
      cases h' with
      | particle hid' hrest' => simp [hid] at hid'
      | unknown hid' hnone' hrest' =>
          cases Option.some.inj (hid.symm.trans hid')
          exact absurd (Table.has_of_get?_eq hdefinition) hnone'
      | reference hid' hdefinition' hcontent' hrest' =>
          cases Option.some.inj (hid.symm.trans hid')
          cases Option.some.inj (hdefinition.symm.trans hdefinition')
          rw [ihcontent hcontent', ihrest hrest']

/-- What is left of references names groups without a definition. -/
theorem not_isDeclared (h : Substituted m ids particles) {id : NodeId} (hid : id ∈ particles) {name : String}
    (hname : (m.node id).referencedGroup? = some name) : ¬ IsDeclared m name := by
  induction h with
  | nil => cases hid
  | particle hid' hrest ih =>
      rcases List.mem_cons.mp hid with rfl | hid
      · rw [hid'] at hname
        cases hname
      · exact ih hid
  | unknown hid' hnone hrest ih =>
      rcases List.mem_cons.mp hid with rfl | hid
      · rwa [← Option.some.inj (hid'.symm.trans hname)]
      · exact ih hid
  | reference hid' hdefinition hcontent hrest ihcontent ihrest =>
      exact (List.mem_append.mp hid).elim ihcontent ihrest

end Substituted

/-- What is known of a group is known of a declared one, and it is right if that reaches no cycle. -/
def Sound (m : Model) (known : Table (List NodeId)) : Prop :=
  ∀ name particles, known.get? name = some particles →
    ∃ id, m.symbols.elementGroups.get? name = some id ∧
      (ReachesNoCycle m name → Substituted m (m.children id) particles)

theorem sound_empty (m : Model) : Sound m ∅ := by
  intro name particles hparticles
  exact absurd hparticles (Table.get?_empty_ne name particles)

/-- The result of a task has the references replaced. A group without a definition has no result. -/
def GroupTask.Substitutes (m : Model) : GroupTask → Option (List NodeId) → Prop
  | group name, result =>
      (¬ IsDeclared m name → result = none) ∧
        ∀ id, m.symbols.elementGroups.get? name = some id →
          ∃ content, result = some content ∧ Substituted m (m.children id) content
  | particles ids, result => ∃ content, result = some content ∧ Substituted m ids content

/-- An expansion keeps what is known sound, and replaces the references if it comes upon no cycle. -/
theorem Expands.substitutes {m : Model} {room : Nat} {path : List String} {known after : Table (List NodeId)}
    {task : GroupTask} {result : Option (List NodeId)} {notes : List GroupNote}
    (h : Expands m room path known task result notes after) (hfit : FitsDepth m) (hentered : Entered m room path task)
    (hsound : Sound m known) :
    Sound m after ∧ ((∀ name, task.Needs m name → ReachesNoCycle m name) → task.Substitutes m result) := by
  induction h with
  | remembered hknown =>
      refine ⟨hsound, fun hacyclic => ?_⟩
      obtain ⟨id, hid, hcontent⟩ := hsound _ _ hknown
      refine ⟨fun hnone => absurd (Table.has_of_get?_eq hid) hnone, ?_⟩
      intro id' hid'
      cases Option.some.inj (hid.symm.trans hid')
      exact ⟨_, rfl, hcontent (hacyclic _ rfl)⟩
  | circular hnew hpath =>
      -- This is where the groups around a reference matter, and it takes a cycle to get here.
      refine ⟨hsound, fun hacyclic => ?_⟩
      exact absurd (hentered.onCycle hpath) (hacyclic _ rfl _ .refl)
  | deep hnew hpath =>
      refine ⟨hsound, fun _ => ⟨fun _ => rfl, ?_⟩⟩
      intro id hid
      exact absurd rfl (hentered.room_ne_zero hfit hpath ⟨id, hid⟩)
  | unknown hnew hpath hnone => exact ⟨hsound, fun _ => ⟨fun _ => rfl, fun id hid => absurd ⟨id, hid⟩ hnone⟩⟩
  | @defined room path known name id particles notes after hnew hpath hid hbody ih =>
      obtain ⟨hafter, hcontent⟩ := ih (hentered.body hpath hid) hsound
      have hright : ReachesNoCycle m name → Substituted m (m.children id) particles := by
        intro hname
        obtain ⟨content, heq, hcontent⟩ := hcontent fun target htarget => hname.target ⟨id, hid, htarget⟩
        rwa [Option.some.inj heq]
      -- Nothing is promised about a group that does reach a cycle, though its particles are known from now on.
      refine ⟨Table.forall_get?_insert hafter ⟨id, hid, hright⟩, fun hacyclic => ?_⟩
      refine ⟨fun hnone => absurd ⟨id, hid⟩ hnone, fun id' hid' => ?_⟩
      cases Option.some.inj (hid.symm.trans hid')
      exact ⟨particles, rfl, hright (hacyclic name rfl)⟩
  | nil => exact ⟨hsound, fun _ => ⟨[], rfl, .nil⟩⟩
  | particle hid hrest ih =>
      obtain ⟨hafter, hothers⟩ := ih hentered.rest hsound
      refine ⟨hafter, fun hacyclic => ?_⟩
      obtain ⟨others, heq, hothers⟩ := hothers fun x hx => hacyclic x (hx.cons _)
      cases Option.some.inj heq
      exact ⟨_, rfl, .particle hid hothers⟩
  | @reference room path known id rest name content notes after others more last hid hgroup hrest ihgroup ihrest =>
      obtain ⟨hbetween, hcontent⟩ := ihgroup (hentered.group hid) hsound
      obtain ⟨hlast, hothers⟩ := ihrest hentered.rest hbetween
      refine ⟨hlast, fun hacyclic => ?_⟩
      obtain ⟨others, heq, hothers⟩ := hothers fun x hx => hacyclic x (hx.cons _)
      cases Option.some.inj heq
      have hname : ∀ x, (GroupTask.group name).Needs m x → ReachesNoCycle m x := by
        rintro x rfl
        exact hacyclic x (GroupTask.needs_head hid rest)
      obtain ⟨hnone, hsome⟩ := hcontent hname
      by_cases hdeclared : IsDeclared m name
      · obtain ⟨definition, hdefinition⟩ := hdeclared
        obtain ⟨particles, rfl, hparticles⟩ := hsome definition hdefinition
        exact ⟨_, rfl, .reference hid hdefinition hparticles hothers⟩
      · rw [hnone hdeclared]
        exact ⟨_, rfl, .unknown hid hdeclared hothers⟩

end SchemaBinding
