import Mathlib.Data.List.Nodup
import SchemaBinding.Proofs.Generation.Moment
import SchemaBinding.Proofs.Generation.TopLevel
import SchemaBinding.Proofs.Model

/-!
# `SchemaBinding.Proofs.Generation.Agenda`: nothing is lost on the way

The agenda of a moment holds every declaration that a visit is due for. A declaration is on record (`OnRecord`)
when it is settled or on the agenda. No step takes a declaration off the record (`Step.onRecord`), and in the
end the agenda holds only the declarations that still wait. So each declaration that is ever visited or queued
ends up settled or waiting (`Reached.settled_or_waiting`).

Two more invariants hold at all moments. `Found` says how a declaration comes up in a run, at the top level or
inside of a generated one, and all of the agenda is found (`Reached.agenda_found`). `Kept` says what the queue
holds: each entry once, and after a pass only declarations of which nothing is known. With these two, the queue
is never longer than the list of the emittable declarations (`Reached.length_postponed_le`).
-/

set_option autoImplicit false

namespace SchemaBinding

namespace Run

variable {m : Model} {config : Config}

/-! ### Declarations on record -/

/-- The declaration is settled, or a visit of it is due. -/
def OnRecord (id : NodeId) (s : Moment) : Prop :=
  s.run.state id ≠ .unvisited ∨ id ∈ s.agenda

/-- No step takes a declaration off the record. -/
theorem Step.onRecord {s t : Moment} (h : Step m config s t) {id : NodeId} (hid : OnRecord id s) :
    OnRecord id t := by
  rcases h.visit_or_same with ⟨x, htodo, hvisit⟩ | ⟨hsame, hagenda⟩
  · rcases hid with hsettled | hdue
    · left
      rwa [hvisit.state_eq_of_settled hsettled]
    · obtain ⟨new, hnew, -, -⟩ := hvisit.exists_new
      rw [mem_agenda, htodo, List.mem_cons] at hdue
      rcases hdue with (rfl | htodo) | hqueue | hpending
      · -- The visited declaration is settled now, or waits in the queue.
        exact hvisit.settled_or_postponed.imp_right mem_agenda_of_postponed
      · exact Or.inr (mem_agenda_of_todo htodo)
      · exact Or.inr (mem_agenda_of_postponed (hvisit.mem_postponed hqueue))
      · refine Or.inr (mem_agenda_of_pending ?_)
        rw [hnew]
        exact List.mem_append_left _ hpending
  · rcases hid with hsettled | hdue
    · left
      rwa [hsame.state]
    · exact Or.inr ((hagenda id).mpr hdue)

/-- What has been queued as an inner type stays on record. -/
theorem Reached.onRecord_of_queued {s : Moment} (h : Reached m config s) :
    ∀ id ∈ s.run.queued, OnRecord id s := by
  refine Reached.invariant (P := fun s => ∀ id ∈ s.run.queued, OnRecord id s) ?_ ?_ h
  · intro id hid
    cases hid
  · intro s t _ hstep hs id hid
    rcases hstep.visit_or_same with ⟨x, -, hvisit⟩ | ⟨hsame, -⟩
    · obtain ⟨new, hpending, hqueued, -⟩ := hvisit.exists_new
      rw [hqueued] at hid
      rcases List.mem_append.mp hid with hold | hnew
      · exact hstep.onRecord (hs id hold)
      · refine Or.inr (mem_agenda_of_pending ?_)
        rw [hpending]
        exact List.mem_append_right _ hnew
    · rw [hsame.queued] at hid
      exact hstep.onRecord (hs id hid)

/-- Every declaration that was on record at some moment is settled in the end, or still waits. -/
theorem Reached.settled_or_waiting {s : Moment} (h : Reached m config s) {id : NodeId} (hid : OnRecord id s) :
    (atRest m config).state id ≠ .unvisited ∨ id ∈ (atRest m config).postponed := by
  have hrest : OnRecord id ⟨.rest, atRest m config⟩ :=
    Steps.stable (fun _ _ hstep hs => hstep.onRecord hs) h.steps_to_rest hid
  refine hrest.imp_right fun hdue => ?_
  rw [mem_agenda] at hdue
  rcases hdue with htodo | hqueue | hpending
  · cases htodo
  · exact hqueue
  · rw [pending_atRest] at hpending
    cases hpending

/-! ### How a declaration comes up -/

/-- The declarations that a run has to deal with: the last of each name at the top level, and the types inside
of the generated ones. -/
inductive Found (m : Model) (config : Config) : NodeId → Prop where
  | topLevel {id : NodeId} (hlast : LastOfName m id) : Found m config id
  | inner {owner id : NodeId} (howner : Begins m config owner) (hchild : id ∈ (m.node owner).children)
      (he : (m.node id).isEmittable = true) (ht : (m.node id).isTopLevel = false) : Found m config id

theorem Found.isEmittable {id : NodeId} (h : Found m config id) : (m.node id).isEmittable = true := by
  cases h with
  | topLevel hlast => exact hlast.1
  | inner howner hchild he ht => exact he

/-- A step brings nothing onto the agenda but types inside of the declaration that it generates. -/
theorem Step.mem_agenda_or_inner {s t : Moment} (h : Step m config s t) {id : NodeId} (hid : id ∈ t.agenda) :
    id ∈ s.agenda ∨ ∃ owner, s.task.todo = owner :: t.task.todo ∧ t.run.calls ≠ s.run.calls ∧
      t.run.state owner = .emitted ∧ id ∈ (m.node owner).children ∧ (m.node id).isEmittable = true ∧
        (m.node id).isTopLevel = false := by
  rcases h.visit_or_same with ⟨x, htodo, hvisit⟩ | ⟨-, hagenda⟩
  · obtain ⟨new, hpending, -, hnew⟩ := hvisit.exists_new
    rcases mem_agenda.mp hid with hrest | hqueue | hinner
    · exact Or.inl (mem_agenda_of_todo (htodo ▸ List.mem_cons_of_mem x hrest))
    · rcases hvisit.settles_or_postpones with ⟨-, heq⟩ | ⟨heq, -, -⟩
      · exact Or.inl (mem_agenda_of_postponed (heq ▸ hqueue))
      · -- The visited declaration may have been put into the queue, and it was due before.
        rw [heq] at hqueue
        rcases mem_postpone.mp hqueue with hold | rfl
        · exact Or.inl (mem_agenda_of_postponed hold)
        · exact Or.inl (mem_agenda_of_todo (htodo ▸ List.mem_cons_self))
    · rw [hpending] at hinner
      rcases List.mem_append.mp hinner with hold | hadded
      · exact Or.inl (mem_agenda_of_pending hold)
      · obtain ⟨hcalls, hchild, he, ht⟩ := hnew id hadded
        exact Or.inr ⟨x, htodo, hcalls, hvisit.state_of_calls_ne hcalls, hchild, he, ht⟩
  · exact Or.inl ((hagenda id).mp hid)

/-- At the start, the agenda holds the last declaration of each name. -/
theorem mem_agenda_start {id : NodeId} : id ∈ (Moment.start m).agenda ↔ LastOfName m id := by
  rw [mem_agenda, ← mem_topLevelTypes_iff]
  simp [Moment.start, Task.todo]

/-- Only found declarations are on the agenda. -/
theorem Reached.agenda_found {s : Moment} (h : Reached m config s) :
    ∀ id ∈ s.agenda, Found m config id := by
  refine Reached.invariant (P := fun s => ∀ id ∈ s.agenda, Found m config id) ?_ ?_ h
  · intro id hid
    exact Found.topLevel (mem_agenda_start.mp hid)
  · intro s t hreached hstep hs id hid
    rcases hstep.mem_agenda_or_inner hid with hold | ⟨owner, htodo, hcalls, -, hchild, he, ht⟩
    · exact hs id hold
    · exact Found.inner (hstep.begins hreached htodo hcalls) hchild he ht

/-- All of the agenda hangs below the root. -/
theorem Reached.agenda_reaches {s : Moment} (h : Reached m config s) :
    ∀ id ∈ s.agenda, m.Reaches Model.root id := by
  refine h.invariant (P := fun s => ∀ id ∈ s.agenda, m.Reaches Model.root id) ?_ ?_
  · intro id hid
    exact .single (mem_agenda_start.mp hid).mem_topLevel
  · intro s t _ hstep hs id hid
    rcases hstep.mem_agenda_or_inner hid with hold | ⟨owner, htodo, -, -, hchild, -, -⟩
    · exact hs id hold
    · exact (hs owner (mem_agenda_of_todo (htodo ▸ List.mem_cons_self))).tail hchild

/-- A generated declaration has come up, and hangs below the root. -/
theorem Begins.found {id : NodeId} (h : Begins m config id) : Found m config id ∧ m.Reaches Model.root id := by
  obtain ⟨s, t, hs, -, hhead, -⟩ := h
  have hid : id ∈ s.agenda := mem_agenda_of_todo (List.mem_of_head? hhead)
  exact ⟨hs.agenda_found id hid, hs.agenda_reaches id hid⟩

/-- Every found declaration is settled in the end, or still waits. -/
theorem Found.settled_or_waiting {id : NodeId} (h : Found m config id) :
    (atRest m config).state id ≠ .unvisited ∨ id ∈ (atRest m config).postponed := by
  cases h with
  | topLevel hlast =>
      have hreached : Reached m config (.start m) := .refl
      exact hreached.settled_or_waiting (Or.inr (mem_agenda_start.mpr hlast))
  | inner howner hchild he ht =>
      obtain ⟨s, t, -, ht', hvisit, hcalls⟩ := howner.exists_visit
      -- The visit of the owner has queued the declaration, if it was neither settled nor queued before.
      rcases hvisit.settled_or_queued hcalls hchild he ht with hsettled | hqueued
      · exact ht'.settled_or_waiting (Or.inl hsettled)
      · exact ht'.settled_or_waiting (ht'.onRecord_of_queued id hqueued)

/-! ### What the queue holds -/

/-- Nothing is known of the declarations in the queue. -/
def AllUnknown (r : Run) : Prop := ∀ id ∈ r.postponed, r.state id = .unvisited

/-- What the queue holds at a moment. In the first passes of a drain it may still hold declarations that have
been settled since they were put there. -/
def Kept (s : Moment) : Prop :=
  match s.task with
  | .walk _ => s.run.postponed.Nodup
  | .drain room => s.run.postponed.Nodup ∧ room ≤ maxDrainCycles ∧ (room < maxDrainCycles → AllUnknown s.run)
  | .pass room _ todo => (todo ++ s.run.postponed).Nodup ∧ room < maxDrainCycles ∧ AllUnknown s.run
  | .rest => s.run.postponed.Nodup ∧ AllUnknown s.run

theorem allUnknown_turnQueue {r : Run} (h : AllUnknown r) : AllUnknown r.turnQueue :=
  fun id hid => h id (List.mem_reverse.mp hid)

/-- A visit within a pass keeps the queue. The declaration comes off the pass, and it can only get back into the
queue when nothing is known of it. -/
theorem Visit.kept {r r' : Run} {id : NodeId} {todo : List NodeId} (h : Visit m config r id r')
    (hnodup : (id :: todo ++ r.postponed).Nodup) (hunknown : AllUnknown r) :
    (todo ++ r'.postponed).Nodup ∧ AllUnknown r' := by
  rw [List.cons_append, List.nodup_cons, List.mem_append, not_or] at hnodup
  obtain ⟨⟨htodo, hqueue⟩, hrest⟩ := hnodup
  rcases h.settles_or_postpones with ⟨-, heq⟩ | ⟨rfl, hid, -⟩
  · refine ⟨heq ▸ hrest, ?_⟩
    intro x hx
    rw [heq] at hx
    have hne : x ≠ id := fun hxid => hqueue (hxid ▸ hx)
    rw [h.state_eq_of_ne hne]
    exact hunknown x hx
  · have hnodup : (r.postpone id).postponed.Nodup := h.nodup_postponed (List.nodup_append.mp hrest).2.1
    refine ⟨List.nodup_append.mpr ⟨(List.nodup_append.mp hrest).1, hnodup, ?_⟩, ?_⟩
    · rintro a ha b hb rfl
      rcases mem_postpone.mp hb with hold | rfl
      · exact (List.nodup_append.mp hrest).2.2 a ha a hold rfl
      · exact htodo ha
    · intro x hx
      rw [state_postpone]
      rcases mem_postpone.mp hx with hold | rfl
      · exact hunknown x hold
      · exact hid

theorem Step.kept {s t : Moment} (h : Step m config s t) (hs : Kept s) : Kept t := by
  cases h with
  | visit id todo r => exact (visit_outcome m config r id).nodup_postponed hs
  | walked r => exact ⟨hs, Nat.le_refl _, fun hlt => absurd hlt (Nat.lt_irrefl _)⟩
  | drained room r hempty =>
      refine ⟨hs.1, fun id hid => ?_⟩
      rw [hempty] at hid
      cases hid
  | gaveUp r hwait =>
      -- No room is left, so this is not the start of the drain.
      exact ⟨hs.1, hs.2.2 (by decide)⟩
  | pass room r hwait =>
      -- The pass takes the whole queue, and what waits again is put into an empty one.
      refine ⟨?_, hs.2.1, fun id hid => by cases hid⟩
      simpa [takeQueue, List.nodup_reverse] using hs.1
  | revisit room waiting id todo r =>
      obtain ⟨hnodup, hroom, hunknown⟩ := hs
      obtain ⟨hnodup', hunknown'⟩ := (visit_outcome m config r id).kept hnodup hunknown
      exact ⟨hnodup', hroom, hunknown'⟩
  | passed room waiting r hmoved =>
      obtain ⟨hnodup, hroom, hunknown⟩ := hs
      exact ⟨List.nodup_reverse.mpr hnodup, Nat.le_of_lt hroom, fun _ => allUnknown_turnQueue hunknown⟩
  | stuck room waiting r hstuck =>
      obtain ⟨hnodup, -, hunknown⟩ := hs
      exact ⟨List.nodup_reverse.mpr hnodup, allUnknown_turnQueue hunknown⟩
  | batch r hpending => exact hs.1

theorem Reached.kept {s : Moment} (h : Reached m config s) : Kept s :=
  h.invariant List.nodup_nil fun _ _ _ hstep hs => hstep.kept hs

theorem Reached.nodup_postponed {s : Moment} (h : Reached m config s) : s.run.postponed.Nodup := by
  have hkept := h.kept
  unfold Kept at hkept
  split at hkept
  · exact hkept
  · exact hkept.1
  · exact (List.nodup_append.mp hkept.1).2.1
  · exact hkept.1

/-- The queue is never longer than the list of the emittable declarations. -/
theorem Reached.length_postponed_le {s : Moment} (h : Reached m config s) :
    s.run.postponed.length ≤ (emittableIds m).length := by
  -- The entries differ from each other, so it is enough that each of them is emittable.
  refine h.nodup_postponed.length_le_of_subset ?_
  intro id hid
  exact mem_emittableIds.mpr (h.agenda_found id (mem_agenda_of_postponed hid)).isEmittable

/-- In the end, nothing is known of the declarations that still wait. -/
theorem state_of_mem_postponed {id : NodeId} (h : id ∈ (atRest m config).postponed) :
    (atRest m config).state id = .unvisited :=
  (reached_atRest m config).kept.2 id h

end Run

end SchemaBinding
