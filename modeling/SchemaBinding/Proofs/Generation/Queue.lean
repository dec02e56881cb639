import Mathlib.Data.Fintype.Pigeonhole
import SchemaBinding.Proofs.Generation.Report

/-!
# `SchemaBinding.Proofs.Generation.Queue`: the passes over the queue settle

A drain goes through the queue until a pass leaves its length unchanged, and makes `maxDrainCycles` passes at most.
Two things could go wrong. The passes could end too early, while the base of some declaration in the queue is
settled. And they could be given up while they still get something done.

`Progress` rules out both. In the middle of a pass, what is left to visit and what waits again are together no more
than the queue was at the beginning of the pass, and they are as many only if the pass has settled nothing so far.
Then the queue is `Quiet`: each declaration in it waits for a base of which nothing is known. So a pass that does
not shorten the queue leaves a quiet one. Any other pass shortens the queue, which is why as many passes are enough
as the queue is long.

`unresolved_lack_bases` states what follows for the declarations that are reported as unresolved. From such a
declaration, the bases lead into a cycle of unresolved declarations, or to one that the run never visits.
-/

set_option autoImplicit false

namespace SchemaBinding.Run

variable {m : Model} {config : Config}

/-! ### Progress -/

/-- Each declaration in the queue waits for a base of which nothing is known. -/
def Quiet (m : Model) (r : Run) : Prop :=
  ∀ id ∈ r.postponed, ∃ base, parent? m id = some base ∧ r.state base = .unvisited

/-- How far a drain has come. -/
def Progress (m : Model) (s : Moment) : Prop :=
  match s.task with
  | .walk _ => True
  | .drain room => s.run.postponed.length ≤ room
  | .pass room waiting todo =>
      waiting ≤ room + 1 ∧ todo.length + s.run.postponed.length ≤ waiting ∧
        (todo.length + s.run.postponed.length = waiting → Quiet m s.run)
  | .rest => Quiet m s.run

theorem quiet_turnQueue {r : Run} (h : Quiet m r) : Quiet m r.turnQueue :=
  fun id hid => h id (List.mem_reverse.mp hid)

/-- A visit within a pass uses up one of the declarations to visit. If as many are left as before, counting those
that wait again, then it has put the declaration back and changed nothing else. -/
theorem Visit.progress {r r' : Run} {id : NodeId} {todo : List NodeId} {waiting : Nat}
    (h : Visit m config r id r') (hle : (id :: todo).length + r.postponed.length ≤ waiting)
    (hquiet : (id :: todo).length + r.postponed.length = waiting → Quiet m r) :
    todo.length + r'.postponed.length ≤ waiting ∧
      (todo.length + r'.postponed.length = waiting → Quiet m r') := by
  rw [List.length_cons] at hle hquiet
  rcases h.settles_or_postpones with ⟨-, heq⟩ | ⟨rfl, -, base, hbase, hwait⟩
  · -- One declaration less is left, so the count has dropped.
    rw [heq]
    exact ⟨by omega, fun h => by omega⟩
  · have hlength := length_postpone_le r id
    refine ⟨by omega, fun hsame x hx => ?_⟩
    rcases mem_postpone.mp hx with hold | rfl
    · obtain ⟨b, hb, hstate⟩ := hquiet (by omega) x hold
      exact ⟨b, hb, by rw [state_postpone, hstate]⟩
    · exact ⟨base, hbase, by rw [state_postpone, hwait]⟩

/-- Every step keeps the progress, as long as the queue is short enough when a drain begins. -/
theorem Step.progress {s t : Moment} (h : Step m config s t)
    (hshort : s.run.postponed.length ≤ maxDrainCycles) (hs : Progress m s) : Progress m t := by
  cases h with
  | visit id todo r => trivial
  | walked r => exact hshort
  | drained room r hempty =>
      intro id hid
      rw [hempty] at hid
      cases hid
  | gaveUp r hwait =>
      -- Where no room is left, the queue is empty.
      exact absurd (List.length_eq_zero_iff.mp (Nat.le_zero.mp hs)) hwait
  | pass room r hwait =>
      refine ⟨hs, by simp [takeQueue], fun _ id hid => ?_⟩
      cases hid
  | revisit room waiting id todo r =>
      obtain ⟨hroom, hle, hquiet⟩ := hs
      exact ⟨hroom, (visit_outcome m config r id).progress hle hquiet⟩
  | passed room waiting r hmoved =>
      obtain ⟨hroom, hle, -⟩ := hs
      have hlength : r.turnQueue.postponed.length = r.postponed.length := List.length_reverse
      have hle : r.postponed.length ≤ waiting := by simpa [Task.todo] using hle
      -- The pass has shortened the queue, so one pass less is enough for the rest.
      show r.turnQueue.postponed.length ≤ room
      omega
  | stuck room waiting r hstuck =>
      obtain ⟨-, -, hquiet⟩ := hs
      -- As many wait as before the pass, and none is left to visit.
      refine quiet_turnQueue (hquiet ?_)
      rw [List.length_nil, Nat.zero_add, hstuck]
  | batch r hpending => trivial

theorem Reached.progress {s : Moment} (h : Reached m config s)
    (hshort : ∀ s, Reached m config s → s.run.postponed.length ≤ maxDrainCycles) : Progress m s :=
  h.invariant trivial fun s _ hs hstep hprogress => hstep.progress (hshort s hs) hprogress

theorem quiet_atRest (hshort : ∀ s, Reached m config s → s.run.postponed.length ≤ maxDrainCycles) :
    Quiet m (atRest m config) := by
  have h : Progress m ⟨.rest, atRest m config⟩ := (reached_atRest m config).progress hshort
  exact h

/-- A visit makes no finding about the queue. -/
theorem Visit.unsettledQueue_not_mem {r r' : Run} {id : NodeId} (h : Visit m config r id r')
    (hr : unsettledQueue ∉ r.report.findings) : unsettledQueue ∉ r'.report.findings := by
  rcases h.rejects_or_same with ⟨message, why, -, rfl⟩ | ⟨-, hfindings, -⟩
  · simpa [reject, hr] using (why.ne_unsettledQueue (m.node id).name).symm
  · rwa [hfindings]

/-- The passes are never given up, since the room for them is not used up before the queue is empty. -/
theorem Reached.unsettledQueue_not_mem {s : Moment} (h : Reached m config s)
    (hshort : ∀ s, Reached m config s → s.run.postponed.length ≤ maxDrainCycles) :
    unsettledQueue ∉ s.run.report.findings := by
  refine h.invariant (P := fun s => unsettledQueue ∉ s.run.report.findings) (by simp [Moment.start]) ?_
  intro s t hreached hstep hs
  have hprogress := hreached.progress hshort
  cases hstep with
  | visit id todo r => exact (visit_outcome m config r id).unsettledQueue_not_mem hs
  | revisit room waiting id todo r => exact (visit_outcome m config r id).unsettledQueue_not_mem hs
  | gaveUp r hwait => exact absurd (List.length_eq_zero_iff.mp (Nat.le_zero.mp hprogress)) hwait
  | walked | drained | pass | passed | stuck | batch => exact hs

/-! ### Where the bases lead -/

/-- The declaration that is reached by going from a declaration to its base `n` times. -/
def ancestor? (m : Model) : Nat → NodeId → Option NodeId
  | 0, id => some id
  | n + 1, id => (ancestor? m n id).bind (parent? m)

/-- All ancestors are in the list, and they run into a cycle. -/
def RunsIntoCycle (m : Model) (left : List NodeId) (id : NodeId) : Prop :=
  (∀ n, ∃ a ∈ left, ancestor? m n id = some a) ∧ ∃ n k, 0 < k ∧ ancestor? m (n + k) id = ancestor? m n id

/-- The ancestors lead to a declaration that the run never visits, and all before it are in the list. -/
def LeadsToUnvisited (m : Model) (config : Config) (left : List NodeId) (id : NodeId) : Prop :=
  ∃ n base, (∀ i ≤ n, ∃ a ∈ left, ancestor? m i id = some a) ∧ ancestor? m (n + 1) id = some base ∧
    ¬ Visits m config base

/-- Ancestors that never leave a list run into a cycle, since two of them are the same. -/
theorem runsIntoCycle_of_forall {left : List NodeId} {id : NodeId}
    (h : ∀ n, ∃ a ∈ left, ancestor? m n id = some a) : RunsIntoCycle m left id := by
  refine ⟨h, ?_⟩
  choose f hmem hf using h
  -- There are more steps than places in the list, so two steps lead to the same place.
  obtain ⟨i, j, hne, heq⟩ :=
    Finite.exists_ne_map_eq_of_infinite fun n => (⟨f n, hmem n⟩ : {a // a ∈ left})
  have hsame : f i = f j := congrArg Subtype.val heq
  rcases Nat.lt_or_gt_of_ne hne with hlt | hgt
  · refine ⟨i, j - i, by omega, ?_⟩
    rw [Nat.add_sub_cancel' (Nat.le_of_lt hlt), hf, hf, hsame]
  · refine ⟨j, i - j, by omega, ?_⟩
    rw [Nat.add_sub_cancel' (Nat.le_of_lt hgt), hf, hf, hsame]

/-- In a quiet queue, a base that does not wait itself is never visited. -/
theorem not_visits_of_not_mem {base : NodeId} (hstate : (atRest m config).state base = .unvisited)
    (hbase : base ∉ (atRest m config).postponed) : ¬ Visits m config base := by
  intro hvisits
  obtain ⟨s, hs, hagenda⟩ := hvisits.exists_reached
  rcases hs.settled_or_waiting (Or.inr hagenda) with hsettled | hwaiting
  · exact hsettled hstate
  · exact hbase hwaiting

theorem cycle_or_unvisited (hquiet : Quiet m (atRest m config)) {id : NodeId}
    (hid : id ∈ (atRest m config).postponed) :
    RunsIntoCycle m (atRest m config).postponed id ∨
      LeadsToUnvisited m config (atRest m config).postponed id := by
  by_cases hall : ∀ n, ∃ a ∈ (atRest m config).postponed, ancestor? m n id = some a
  · exact Or.inl (runsIntoCycle_of_forall hall)
  · right
    have hexists : ∃ n, ¬ ∃ a ∈ (atRest m config).postponed, ancestor? m n id = some a :=
      not_forall.mp hall
    classical
    -- The first ancestor that does not wait is the base of one that does.
    cases hfirst : Nat.find hexists with
    | zero =>
        have h := Nat.find_spec hexists
        rw [hfirst] at h
        exact absurd ⟨id, hid, rfl⟩ h
    | succ n =>
        have hbefore : ∀ i ≤ n, ∃ a ∈ (atRest m config).postponed, ancestor? m i id = some a := by
          intro i hi
          exact not_not.mp (Nat.find_min hexists (by omega))
        obtain ⟨a, ha, hancestor⟩ := hbefore n (Nat.le_refl n)
        obtain ⟨base, hbase, hstate⟩ := hquiet a ha
        have hnext : ancestor? m (n + 1) id = some base := by
          rw [ancestor?, hancestor, Option.bind_some, hbase]
        have hleft : base ∉ (atRest m config).postponed := by
          intro hmem
          have h := Nat.find_spec hexists
          rw [hfirst] at h
          exact h ⟨base, hmem, hnext⟩
        exact ⟨n, base, hbefore, hnext, not_visits_of_not_mem hstate hleft⟩

/-- Suppose that never more declarations wait at once than a drain may make passes. Then the passes are never given
up. The declarations reported as unresolved are those that still wait in the end, and each of them has a base that
is neither generated nor rejected then. Their bases lead into a cycle of such declarations or to one that the run
never visits. No declaration waits whose base is generated or rejected. -/
theorem unresolved_lack_bases (m : Model) (config : Config)
    (hshort : ∀ s, Reached m config s → s.run.postponed.length ≤ maxDrainCycles) :
    unsettledQueue ∉ (generate config m).report.findings ∧
      (generate config m).report.unresolved = (atRest m config).postponed.map (unresolvedEntry m) ∧
      (∀ id ∈ (atRest m config).postponed, ∃ base, parent? m id = some base ∧
        (atRest m config).state base ≠ .emitted ∧ (atRest m config).state base ≠ .rejected) ∧
      (∀ id ∈ (atRest m config).postponed, RunsIntoCycle m (atRest m config).postponed id ∨
        LeadsToUnvisited m config (atRest m config).postponed id) ∧
      ∀ id base, parent? m id = some base →
        (atRest m config).state base = .emitted ∨ (atRest m config).state base = .rejected →
        id ∉ (atRest m config).postponed := by
  have hquiet := quiet_atRest hshort
  obtain ⟨-, -, hunresolved, hfindings⟩ := generate_report m config
  refine ⟨?_, hunresolved, ?_, fun id hid => cycle_or_unvisited hquiet hid, ?_⟩
  · rw [hfindings, List.mem_append, not_or]
    refine ⟨(reached_atRest m config).unsettledQueue_not_mem hshort, ?_⟩
    intro hmem
    obtain ⟨id, -, heq⟩ := List.mem_map.mp hmem
    exact unresolvedFinding_ne_unsettledQueue m id heq
  · intro id hid
    obtain ⟨base, hbase, hstate⟩ := hquiet id hid
    exact ⟨base, hbase, by rw [hstate]; decide, by rw [hstate]; decide⟩
  · intro id base hbase hsettled hid
    obtain ⟨b, hb, hstate⟩ := hquiet id hid
    rw [hbase, Option.some.injEq] at hb
    rw [hb, hstate] at hsettled
    rcases hsettled with h | h <;> cases h

/-- A complex type of the top level. -/
def topLevelType (name : String) (base : Option String) : Node :=
  { Node.ofKind .complexType name with
    base := base, isExplicitlyDefined := true, isComplex := true, isTopLevel := true }

/-- A schema in which `A` derives from nothing, and `B` and `C` derive from each other. -/
def derivationCycle : Model where
  nodes := #[{ Node.ofKind .schema "schema" with children := [⟨1⟩, ⟨2⟩, ⟨3⟩] }, topLevelType "A" none,
    topLevelType "B" (some "C"), topLevelType "C" (some "B")]

theorem postponed_derivationCycle : (atRest derivationCycle {}).postponed = [⟨2⟩, ⟨3⟩] := by
  unfold atRest
  rw [visitBatches, dif_neg (by decide)]
  decide

theorem unresolved_lack_bases_derivationCycle :
    (∀ s, Reached derivationCycle {} s → s.run.postponed.length ≤ maxDrainCycles) ∧
      unsettledQueue ∉ (generate {} derivationCycle).report.findings ∧
      (generate {} derivationCycle).report.unresolved = [("B", "C"), ("C", "B")] ∧
      (∃ base, parent? derivationCycle ⟨2⟩ = some base ∧ (atRest derivationCycle {}).state base ≠ .emitted ∧
        (atRest derivationCycle {}).state base ≠ .rejected) ∧
      (RunsIntoCycle derivationCycle (atRest derivationCycle {}).postponed ⟨2⟩ ∨
        LeadsToUnvisited derivationCycle {} (atRest derivationCycle {}).postponed ⟨2⟩) := by
  -- The queue is never longer than the list of the emittable declarations, and there are three.
  have hshort : ∀ s, Reached derivationCycle {} s → s.run.postponed.length ≤ maxDrainCycles :=
    fun s hs => hs.length_postponed_le.trans (by decide)
  obtain ⟨hqueue, hunresolved, hbase, hleads, -⟩ := unresolved_lack_bases derivationCycle {} hshort
  have hmem : (⟨2⟩ : NodeId) ∈ (atRest derivationCycle {}).postponed := by
    rw [postponed_derivationCycle]
    exact List.mem_cons_self
  refine ⟨hshort, hqueue, ?_, hbase _ hmem, hleads _ hmem⟩
  rw [hunresolved, postponed_derivationCycle]
  decide

end SchemaBinding.Run
