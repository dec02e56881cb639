import Mathlib.Logic.Relation
import SchemaBinding.Proofs.Generation.Visit

/-!
# `SchemaBinding.Proofs.Generation.Moment`: a run of generation, step by step

`Run.all` is made of folds and loops inside of each other. This file cuts such a run into single steps. A
`Moment` is a run together with a `Task`, which says where in the loops the run is: it walks over declarations, it
is about to go through the queue, it is in the middle of a pass, or it rests. `Step` relates a moment to the next
one, and most steps are one visit. `Reached` holds of the moments that a run goes through.

`steps_to_rest` ties the steps to the definitions that run: they lead from the start to `atRest`, the run that
`Run.all` makes its report from. No moment has two successors (`Step.eq_of_step`), and `atRest` has none
(`not_step_atRest`). So each moment that is reached leads to `atRest` (`Reached.steps_to_rest`), and there is no
endless run (`acc_start`).

Facts about runs are then proved for one step. `Reached.invariant` and `Reached.run_invariant` carry what holds at
the start through the steps, and `Steps.stable` carries what holds at some moment to all later ones.
-/

set_option autoImplicit false

namespace SchemaBinding.Run

/-- What a run is about to do. -/
inductive Task where
  /-- Visit these declarations, of the top level or of a batch. -/
  | walk (todo : List NodeId)
  /-- Go through the queue, with `room` for that many passes. -/
  | drain (room : Nat)
  /-- Visit the rest of a queue that was `waiting` long when the pass began. -/
  | pass (room waiting : Nat) (todo : List NodeId)
  /-- Take the next batch of inner types, if there is any. -/
  | rest
  deriving DecidableEq

/-- The declarations that a walk or a pass still has to visit. -/
def Task.todo : Task → List NodeId
  | walk todo => todo
  | drain _ => []
  | pass _ _ todo => todo
  | rest => []

/-- A run and what it is about to do. -/
structure Moment where
  task : Task
  run : Run

/-- All declarations that a visit is due for: those of the walk or the pass, and those in the two queues. -/
def Moment.agenda (s : Moment) : List NodeId := s.task.todo ++ s.run.postponed ++ s.run.pending

/-- The queue is taken for a pass. -/
def takeQueue (r : Run) : Run :=
  { r with postponed := [], report := { r.report with cycles := r.report.cycles + 1 } }

/-- A pass has filled the queue from the back, so it is turned round. -/
def turnQueue (r : Run) : Run := { r with postponed := r.postponed.reverse }

/-- The passes are given up, and the finding says so. -/
def giveUp (r : Run) : Run :=
  { r with report := { r.report with findings := r.report.findings ++ [unsettledQueue] } }

/-- The inner types are taken as the next batch. -/
def takeBatch (r : Run) : Run := { r with pending := [] }

/-- A run before its first visit. -/
def Moment.start (m : Model) : Moment := ⟨.walk (topLevelTypes m), {}⟩

section
variable (m : Model) (config : Config)

/-- One step of a run. -/
inductive Step : Moment → Moment → Prop where
  | visit (id : NodeId) (todo : List NodeId) (r : Run) :
      Step ⟨.walk (id :: todo), r⟩ ⟨.walk todo, r.visit m config id⟩
  | walked (r : Run) : Step ⟨.walk [], r⟩ ⟨.drain maxDrainCycles, r⟩
  | drained (room : Nat) (r : Run) (hempty : r.postponed = []) : Step ⟨.drain room, r⟩ ⟨.rest, r⟩
  | gaveUp (r : Run) (hwait : r.postponed ≠ []) : Step ⟨.drain 0, r⟩ ⟨.rest, r.giveUp⟩
  | pass (room : Nat) (r : Run) (hwait : r.postponed ≠ []) :
      Step ⟨.drain (room + 1), r⟩ ⟨.pass room r.postponed.length r.postponed.reverse, r.takeQueue⟩
  | revisit (room waiting : Nat) (id : NodeId) (todo : List NodeId) (r : Run) :
      Step ⟨.pass room waiting (id :: todo), r⟩ ⟨.pass room waiting todo, r.visit m config id⟩
  | passed (room waiting : Nat) (r : Run) (hmoved : r.postponed.length ≠ waiting) :
      Step ⟨.pass room waiting [], r⟩ ⟨.drain room, r.turnQueue⟩
  | stuck (room waiting : Nat) (r : Run) (hstuck : r.postponed.length = waiting) :
      Step ⟨.pass room waiting [], r⟩ ⟨.rest, r.turnQueue⟩
  | batch (r : Run) (hpending : r.pending ≠ []) : Step ⟨.rest, r⟩ ⟨.walk r.pending, r.takeBatch⟩

/-- Any number of steps. -/
abbrev Steps : Moment → Moment → Prop := Relation.ReflTransGen (Step m config)

/-- The moments that the run for a model goes through. -/
def Reached (s : Moment) : Prop := Steps m config (.start m) s

/-- The run when nothing is left to visit, and before the report on what still waits. -/
def atRest : Run :=
  ((({} : Run).visitAll m config (topLevelTypes m)).drain m config).visitBatches m config

/-- The run visits the declaration `id` at some moment. -/
def Visits (id : NodeId) : Prop := ∃ s, Reached m config s ∧ s.task.todo.head? = some id

/-- The run generates the declaration `id`: the step that visits it calls the back end. -/
def Begins (id : NodeId) : Prop :=
  ∃ s t, Reached m config s ∧ Step m config s t ∧ s.task.todo.head? = some id ∧ t.run.calls ≠ s.run.calls

end

variable {m : Model} {config : Config}

/-! ### The steps and the definitions that run -/

theorem generate_eq (m : Model) (config : Config) :
    generate config m = ⟨(atRest m config).calls, ((atRest m config).reportUnresolved m).report⟩ := rfl

theorem steps_walk (ids : List NodeId) (r : Run) :
    Steps m config ⟨.walk ids, r⟩ ⟨.walk [], r.visitAll m config ids⟩ := by
  induction ids generalizing r with
  | nil => exact .refl
  | cons id rest ih => exact .head (.visit id rest r) (ih _)

theorem steps_pass (room waiting : Nat) (ids : List NodeId) (r : Run) :
    Steps m config ⟨.pass room waiting ids, r⟩ ⟨.pass room waiting [], r.visitAll m config ids⟩ := by
  induction ids generalizing r with
  | nil => exact .refl
  | cons id rest ih => exact .head (.revisit room waiting id rest r) (ih _)

theorem drainOnce_eq (r : Run) :
    r.drainOnce m config = (r.takeQueue.visitAll m config r.postponed.reverse).turnQueue := rfl

/-- The passes over the queue, as steps. -/
theorem steps_drain (room : Nat) (r : Run) :
    Steps m config ⟨.drain room, r⟩ ⟨.rest, drainFor m config room r⟩ := by
  induction room generalizing r with
  | zero =>
      unfold drainFor
      split
      · rename_i hempty
        exact .single (.drained 0 r (List.isEmpty_iff.mp hempty))
      · rename_i hwait
        exact .single (.gaveUp r (fun h => hwait (List.isEmpty_iff.mpr h)))
  | succ room ih =>
      unfold drainFor
      split
      · rename_i hempty
        exact .single (.drained _ r (List.isEmpty_iff.mp hempty))
      · rename_i hwait
        have hpass : Steps m config ⟨.drain (room + 1), r⟩
            ⟨.pass room r.postponed.length [], r.takeQueue.visitAll m config r.postponed.reverse⟩ :=
          .head (.pass room r (fun h => hwait (List.isEmpty_iff.mpr h))) (steps_pass _ _ _ _)
        -- Turning the queue round does not change its length, on which the end of the passes depends.
        have hlength : (r.drainOnce m config).postponed.length =
            (r.takeQueue.visitAll m config r.postponed.reverse).postponed.length := by
          rw [drainOnce_eq]
          exact List.length_reverse
        simp only
        split
        · rename_i hstuck
          exact hpass.tail (.stuck _ _ _ (hlength ▸ hstuck))
        · rename_i hmoved
          exact (hpass.tail (.passed _ _ _ (hlength ▸ hmoved))).trans (ih _)

/-- A walk and the passes after it, as steps. -/
theorem steps_walk_drain (ids : List NodeId) (r : Run) :
    Steps m config ⟨.walk ids, r⟩ ⟨.rest, (r.visitAll m config ids).drain m config⟩ :=
  ((steps_walk ids r).tail (.walked _)).trans (steps_drain _ _)

/-- The batches of inner types, as steps. -/
theorem steps_batches (r : Run) :
    Steps m config ⟨.rest, r⟩ ⟨.rest, r.visitBatches m config⟩ ∧
      (r.visitBatches m config).pending = [] := by
  induction r using visitBatches.induct m config with
  | case1 r hpending ih =>
      rw [visitBatches, dif_pos hpending]
      have hne : r.pending ≠ [] := fun h => by simp [h] at hpending
      -- After its walk and its passes, a batch is at rest again.
      have hbatch : Steps m config ⟨.rest, r⟩ ⟨.rest, r.visitBatch m config⟩ :=
        .head (.batch r hne) (steps_walk_drain r.pending r.takeBatch)
      exact ⟨hbatch.trans ih.1, ih.2⟩
  | case2 r hempty =>
      rw [visitBatches, dif_neg hempty]
      refine ⟨.refl, ?_⟩
      simpa using hempty

/-- The steps lead from the start to the run that the report is made from. -/
theorem steps_to_rest (m : Model) (config : Config) :
    Steps m config (.start m) ⟨.rest, atRest m config⟩ :=
  (steps_walk_drain (topLevelTypes m) {}).trans (steps_batches _).1

theorem pending_atRest (m : Model) (config : Config) : (atRest m config).pending = [] :=
  (steps_batches _).2

theorem reached_atRest (m : Model) (config : Config) : Reached m config ⟨.rest, atRest m config⟩ :=
  steps_to_rest m config

/-! ### One course, and its end -/

/-- A moment has at most one successor. -/
theorem Step.eq_of_step {s t t' : Moment} (h : Step m config s t) (h' : Step m config s t') : t = t' := by
  -- The task alone says which step comes next, except before a pass and at its end.
  cases h with
  | visit id todo r => cases h'; rfl
  | walked r => cases h'; rfl
  | drained room r hempty =>
      cases h' with
      | drained => rfl
      | gaveUp _ hwait => exact absurd hempty hwait
      | pass _ _ hwait => exact absurd hempty hwait
  | gaveUp r hwait =>
      cases h' with
      | drained _ _ hempty => exact absurd hempty hwait
      | gaveUp => rfl
  | pass room r hwait =>
      cases h' with
      | drained _ _ hempty => exact absurd hempty hwait
      | pass => rfl
  | revisit room waiting id todo r => cases h'; rfl
  | passed room waiting r hmoved =>
      cases h' with
      | passed => rfl
      | stuck _ _ _ hstuck => exact absurd hstuck hmoved
  | stuck room waiting r hstuck =>
      cases h' with
      | passed _ _ _ hmoved => exact absurd hstuck hmoved
      | stuck => rfl
  | batch r hpending => cases h'; rfl

theorem not_step_atRest (m : Model) (config : Config) (t : Moment) :
    ¬ Step m config ⟨.rest, atRest m config⟩ t := by
  intro h
  cases h with
  | batch _ hpending => exact hpending (pending_atRest m config)

/-- Whatever moment a run has reached, it goes on to its rest. -/
theorem Reached.steps_to_rest {s : Moment} (h : Reached m config s) :
    Steps m config s ⟨.rest, atRest m config⟩ := by
  have hunique : Relator.RightUnique (Step m config) := fun _ _ _ h h' => h.eq_of_step h'
  -- Of two sequences of steps from the start, one goes on where the other ends.
  rcases Relation.ReflTransGen.total_of_right_unique hunique h (reached_atRest m config) with hto | hfrom
  · exact hto
  · -- The rest has no successor, so only the empty sequence of steps leads away from it.
    rcases Relation.ReflTransGen.cases_head hfrom with heq | ⟨t, hstep, -⟩
    · rw [heq]
    · exact absurd hstep (not_step_atRest m config t)

/-- Every sequence of steps from the start comes to an end. -/
theorem acc_start (m : Model) (config : Config) :
    Acc (fun t s => Step m config s t) (.start m) := by
  -- Backwards from the rest, each moment has only the next one as its successor.
  refine Relation.ReflTransGen.head_induction_on (steps_to_rest m config) ?_ ?_
  · exact Acc.intro _ fun t ht => absurd ht (not_step_atRest m config t)
  · intro s t hstep _ ih
    exact Acc.intro _ fun t' ht' => hstep.eq_of_step ht' ▸ ih

/-! ### From one step to all -/

/-- What each step from a reached moment preserves holds at every moment, if it holds at the start. -/
theorem Reached.invariant {P : Moment → Prop} (hstart : P (.start m))
    (hstep : ∀ s t, Reached m config s → Step m config s t → P s → P t) {s : Moment}
    (h : Reached m config s) : P s := by
  induction h with
  | refl => exact hstart
  | tail hs ht ih => exact hstep _ _ hs ht ih

/-- What each step preserves holds at every later moment. -/
theorem Steps.stable {P : Moment → Prop} (hstep : ∀ s t, Step m config s t → P s → P t) {s t : Moment}
    (h : Steps m config s t) (hs : P s) : P t := by
  induction h with
  | refl => exact hs
  | tail _ ht ih => exact hstep _ _ ht ih

theorem Reached.step {s t : Moment} (hs : Reached m config s) (h : Step m config s t) :
    Reached m config t :=
  Relation.ReflTransGen.tail hs h

/-- The findings about declarations, without those about the queue. -/
def declarationFindings (r : Run) : Diagnostics := r.report.findings.filter (· ≠ unsettledQueue)

theorem declarationFindings_giveUp (r : Run) : r.giveUp.declarationFindings = r.declarationFindings := by
  simp [declarationFindings, giveUp, List.filter_append]

/-- Two runs that differ at most in what still waits, in their passes and in findings about the queue. -/
structure SameRecord (r r' : Run) : Prop where
  states : r'.states = r.states
  queued : r'.queued = r.queued
  calls : r'.calls = r.calls
  emitted : r'.report.emitted = r.report.emitted
  rejected : r'.report.rejected = r.report.rejected
  unresolved : r'.report.unresolved = r.report.unresolved
  findings : r'.declarationFindings = r.declarationFindings

theorem SameRecord.state {r r' : Run} (h : SameRecord r r') (id : NodeId) : r'.state id = r.state id :=
  state_congr h.states id

theorem mem_agenda {s : Moment} {id : NodeId} :
    id ∈ s.agenda ↔ id ∈ s.task.todo ∨ id ∈ s.run.postponed ∨ id ∈ s.run.pending := by
  unfold Moment.agenda
  rw [List.mem_append, List.mem_append, or_assoc]

theorem mem_agenda_of_todo {s : Moment} {id : NodeId} (h : id ∈ s.task.todo) : id ∈ s.agenda :=
  mem_agenda.mpr (Or.inl h)

theorem mem_agenda_of_postponed {s : Moment} {id : NodeId} (h : id ∈ s.run.postponed) : id ∈ s.agenda :=
  mem_agenda.mpr (Or.inr (Or.inl h))

theorem mem_agenda_of_pending {s : Moment} {id : NodeId} (h : id ∈ s.run.pending) : id ∈ s.agenda :=
  mem_agenda.mpr (Or.inr (Or.inr h))

/-- A step visits the next declaration of a walk or a pass. Any other step leaves the record as it is, and only
moves declarations within the agenda. -/
theorem Step.visit_or_same {s t : Moment} (h : Step m config s t) :
    (∃ id, s.task.todo = id :: t.task.todo ∧ Visit m config s.run id t.run) ∨
      (SameRecord s.run t.run ∧ ∀ id, id ∈ t.agenda ↔ id ∈ s.agenda) := by
  cases h with
  | visit id todo r => exact Or.inl ⟨id, rfl, visit_outcome m config r id⟩
  | revisit room waiting id todo r => exact Or.inl ⟨id, rfl, visit_outcome m config r id⟩
  | walked | drained => exact Or.inr ⟨⟨rfl, rfl, rfl, rfl, rfl, rfl, rfl⟩, fun _ => Iff.rfl⟩
  | gaveUp r hwait =>
      exact Or.inr ⟨⟨rfl, rfl, rfl, rfl, rfl, rfl, declarationFindings_giveUp r⟩, fun _ => Iff.rfl⟩
  | pass | passed | stuck =>
      -- The queue becomes the work of a pass, or is turned round. Its members stay the same.
      refine Or.inr ⟨⟨rfl, rfl, rfl, rfl, rfl, rfl, rfl⟩, fun id => ?_⟩
      simp [mem_agenda, Task.todo, takeQueue, turnQueue]
  | batch r hpending =>
      refine Or.inr ⟨⟨rfl, rfl, rfl, rfl, rfl, rfl, rfl⟩, fun id => ?_⟩
      simp [mem_agenda, Task.todo, takeBatch, or_comm]

/-- What visits preserve, and what only depends on the record, holds of the run at every moment. -/
theorem Reached.run_invariant {P : Run → Prop} (hstart : P {})
    (hvisit : ∀ r r' id, Visit m config r id r' → P r → P r')
    (hsame : ∀ r r', SameRecord r r' → P r → P r') {s : Moment} (h : Reached m config s) : P s.run := by
  refine Reached.invariant (P := fun s => P s.run) hstart ?_ h
  intro s t _ hstep hs
  rcases hstep.visit_or_same with ⟨id, -, houtcome⟩ | ⟨hrecord, -⟩
  · exact hvisit _ _ id houtcome hs
  · exact hsame _ _ hrecord hs

/-- What has become of a declaration is never taken back. -/
theorem Step.state_eq_of_settled {s t : Moment} (h : Step m config s t) {id : NodeId}
    (hid : s.run.state id ≠ .unvisited) : t.run.state id = s.run.state id := by
  rcases h.visit_or_same with ⟨x, -, hvisit⟩ | ⟨hsame, -⟩
  · exact hvisit.state_eq_of_settled hid
  · exact hsame.state id

theorem Reached.state_atRest {s : Moment} (h : Reached m config s) {id : NodeId} {v : NodeState}
    (hv : v ≠ .unvisited) (hid : s.run.state id = v) : (atRest m config).state id = v := by
  refine Steps.stable (P := fun s => s.run.state id = v) ?_ h.steps_to_rest hid
  intro s t hstep hs
  rw [hstep.state_eq_of_settled (hs ▸ hv), hs]

/-! ### Visits and beginnings -/

theorem Visits.exists_reached {id : NodeId} (h : Visits m config id) :
    ∃ s, Reached m config s ∧ id ∈ s.agenda := by
  obtain ⟨s, hs, hhead⟩ := h
  exact ⟨s, hs, mem_agenda_of_todo (List.mem_of_head? hhead)⟩

/-- A step that visits a declaration and calls the back end generates it. -/
theorem Step.begins {s t : Moment} (hs : Reached m config s) (h : Step m config s t) {id : NodeId}
    {todo : List NodeId} (htodo : s.task.todo = id :: todo) (hcalls : t.run.calls ≠ s.run.calls) :
    Begins m config id :=
  ⟨s, t, hs, h, by rw [htodo, List.head?_cons], hcalls⟩

theorem Begins.exists_visit {id : NodeId} (h : Begins m config id) :
    ∃ s t, Reached m config s ∧ Reached m config t ∧ Visit m config s.run id t.run ∧
      t.run.calls ≠ s.run.calls := by
  obtain ⟨s, t, hs, hstep, hhead, hcalls⟩ := h
  rcases hstep.visit_or_same with ⟨x, htodo, hvisit⟩ | ⟨hsame, -⟩
  · rw [htodo, List.head?_cons, Option.some.injEq] at hhead
    exact ⟨s, t, hs, hs.step hstep, hhead ▸ hvisit, hcalls⟩
  · exact absurd hsame.calls hcalls

end SchemaBinding.Run
