import SchemaBinding.Proofs.Generation.Accounts
import SchemaBinding.Proofs.Generation.Queue

/-!
# `SchemaBinding.Proofs.Generation.Fate`: what becomes of a declaration, by rules

A run comes to its results in some order. It walks over the top level, goes through its queue from the back, and
finds inner types on the way. `Fated` gives the same results by rules that know of no order. They say which
declarations come up, which of these are generated, and which are rejected. What the rules leave open waits.

Two properties of the model are needed. The clean names are distinct, so that no declaration counts as generated
on account of another one. And the queue is `Quiet` in the end, which is the case whenever it never gets too long.

A run does no more than the rules allow (`Reached.sound`, an invariant), and in the end it has done all that they
demand (`Fated.borneOut`, by induction on the rules). The rules are consistent (`Fated.not_rejected`), so a
declaration that is settled in the end is settled as they say. `mem_emitted_iff`, `mem_rejected_iff` and
`mem_unresolved_iff` read the report off the rules.
-/

set_option autoImplicit false

namespace SchemaBinding.Run

variable {m : Model} {config : Config} {id : NodeId}

/-! ### The rules -/

/-- What the rules can say of a declaration. -/
inductive Fate where
  | found
  | generated
  | rejected

/-- A declaration comes up at the top level or inside of a generated one. It is generated if its base is, and
rejected if its base is, or if its own content is inconsistent. -/
inductive Fated (m : Model) : Fate → NodeId → Prop where
  | topLevel {id : NodeId} (hlast : LastOfName m id) : Fated m .found id
  | inner {owner id : NodeId} (howner : Fated m .generated owner) (hchild : id ∈ (m.node owner).children)
      (he : (m.node id).isEmittable = true) (ht : (m.node id).isTopLevel = false) : Fated m .found id
  | generated {id : NodeId} (hfound : Fated m .found id)
      (hready : ∀ base, parent? m id = some base → Fated m .generated base)
      (hmixed : (m.node id).mixedExtensionError = false) : Fated m .generated id
  | mixed {id : NodeId} (hfound : Fated m .found id)
      (hready : ∀ base, parent? m id = some base → Fated m .generated base)
      (hmixed : (m.node id).mixedExtensionError = true) : Fated m .rejected id
  | base {id base : NodeId} (hfound : Fated m .found id) (hbase : parent? m id = some base)
      (hrejected : Fated m .rejected base) : Fated m .rejected id

/-- No declaration is fated both ways. A base that is generated is not rejected, by induction on the rules. -/
theorem Fated.not_rejected (h : Fated m .generated id) : ¬ Fated m .rejected id := by
  generalize hfate : Fate.generated = fate at h
  induction h with
  | topLevel | inner | mixed | base => cases hfate
  | generated hfound hready hmixed _ ih =>
      intro hrejected
      cases hrejected with
      | mixed _ _ hinconsistent =>
          rw [hmixed] at hinconsistent
          cases hinconsistent
      | base _ hbase hbad => exact ih _ hbase rfl hbad

/-! ### A run does what the rules allow -/

/-- Each declaration that a run has settled is settled as the rules say. -/
structure Justified (m : Model) (r : Run) : Prop where
  emitted : ∀ id, r.state id = .emitted → Fated m .generated id
  rejected : ∀ id, r.state id = .rejected → Fated m .rejected id

theorem justified_start (m : Model) : Justified m {} where
  emitted := by
    intro id hid
    rw [state_start] at hid
    cases hid
  rejected := by
    intro id hid
    rw [state_start] at hid
    cases hid

theorem Justified.congr {r r' : Run} (h : Justified m r) (hstate : ∀ id, r'.state id = r.state id) :
    Justified m r' where
  emitted := fun id hid => h.emitted id (hstate id ▸ hid)
  rejected := fun id hid => h.rejected id (hstate id ▸ hid)

theorem Refusal.fated {r : Run} {message : String} (h : Refusal m r id message) (hfound : Fated m .found id)
    (hr : Justified m r) : Fated m .rejected id := by
  cases h with
  | base hbase hstate => exact Fated.base hfound hbase (hr.rejected _ hstate)
  | mixed hready hmixed => exact Fated.mixed hfound (fun base hbase => hr.emitted base (hready base hbase)) hmixed

/-- A visit settles a declaration as the rules say, unless it goes by the clean name of another one. -/
theorem Visit.justified {r r' : Run} (h : Visit m config r id r') (hfound : Fated m .found id)
    (hname : (m.node id).cleanName ∈ r.report.emitted → r.state id = .emitted) (hr : Justified m r) :
    Justified m r' := by
  have hself : (r'.state id = .emitted → Fated m .generated id) ∧
      (r'.state id = .rejected → Fated m .rejected id) := by
    cases h with
    | settled hold => exact ⟨hr.emitted id, hr.rejected id⟩
    | named hnew hemitted =>
        -- The emitted name is its own, so it would have been settled before.
        rw [hname hemitted] at hnew
        cases hnew
    | postponed hnew hbase hwait =>
        rw [state_postpone]
        exact ⟨hr.emitted id, hr.rejected id⟩
    | rejected hnew why =>
        rw [state_reject, if_pos rfl]
        exact ⟨fun hid => (by cases hid), fun _ => why.fated hfound hr⟩
    | generated hnew hfresh hready hmixed =>
        rw [state_emit, if_pos rfl]
        have hbase : ∀ base, parent? m id = some base → Fated m .generated base :=
          fun base hbase => hr.emitted base (hready base hbase)
        exact ⟨fun _ => Fated.generated hfound hbase hmixed, fun hid => (by cases hid)⟩
  -- All other declarations are as they were before the visit.
  refine ⟨?_, ?_⟩
  · intro x hx
    by_cases hxid : x = id
    · rw [hxid] at hx ⊢
      exact hself.1 hx
    · rw [h.state_eq_of_ne hxid] at hx
      exact hr.emitted x hx
  · intro x hx
    by_cases hxid : x = id
    · rw [hxid] at hx ⊢
      exact hself.2 hx
    · rw [h.state_eq_of_ne hxid] at hx
      exact hr.rejected x hx

/-- What the rules justify at a moment: all that is settled, and that all of the agenda comes up. -/
structure Sound (m : Model) (s : Moment) : Prop where
  agenda : ∀ id ∈ s.agenda, Fated m .found id
  justified : Justified m s.run

theorem Step.sound {s t : Moment} (h : Step m config s t) (hs : Reached m config s)
    (hclean : DistinctBy m Node.cleanName) (hsound : Sound m s) : Sound m t := by
  have hjustified : Justified m t.run := by
    rcases h.visit_or_same with ⟨x, htodo, hvisit⟩ | ⟨hsame, -⟩
    · have hdue : x ∈ s.agenda := mem_agenda_of_todo (htodo ▸ List.mem_cons_self)
      refine hvisit.justified (hsound.agenda x hdue) ?_ hsound.justified
      intro hname
      exact (hs.begins_of_cleanName_mem hclean (hs.agenda_found x hdue).isEmittable hname).2
    · exact hsound.justified.congr hsame.state
  refine ⟨?_, hjustified⟩
  -- What is new on the agenda is inside of a declaration that the step has just generated.
  intro id hid
  rcases h.mem_agenda_or_inner hid with hold | ⟨owner, -, -, hstate, hchild, he, ht⟩
  · exact hsound.agenda id hold
  · exact Fated.inner (hjustified.emitted owner hstate) hchild he ht

theorem Reached.sound {s : Moment} (h : Reached m config s) (hclean : DistinctBy m Node.cleanName) :
    Sound m s :=
  h.invariant ⟨fun _ hid => Fated.topLevel (mem_agenda_start.mp hid), justified_start m⟩
    fun _ _ hs hstep hsound => hstep.sound hs hclean hsound

/-! ### A run does what the rules demand -/

/-- The end of the run bears out what the rules say. -/
def BorneOut (m : Model) (config : Config) : Fate → NodeId → Prop
  | .found, id => (atRest m config).state id ≠ .unvisited ∨ id ∈ (atRest m config).postponed
  | .generated, id => (atRest m config).state id = .emitted
  | .rejected, id => (atRest m config).state id = .rejected

/-- In a quiet queue, no declaration waits for a base that is settled. -/
theorem Quiet.settled {r : Run} (hquiet : Quiet m r) (hid : r.state id ≠ .unvisited ∨ id ∈ r.postponed)
    (hbase : ∀ base, parent? m id = some base → r.state base ≠ .unvisited) : r.state id ≠ .unvisited := by
  rcases hid with hsettled | hwaiting
  · exact hsettled
  · obtain ⟨base, hparent, hstate⟩ := hquiet id hwaiting
    exact absurd hstate (hbase base hparent)

/-- Where the rules generate a settled declaration, it counts as generated, since it is not fated both ways. -/
theorem Justified.state_of_generated {r : Run} (h : Justified m r) (hid : r.state id ≠ .unvisited)
    (hfate : Fated m .generated id) : r.state id = .emitted := by
  cases hstate : r.state id with
  | unvisited => exact absurd hstate hid
  | emitted => rfl
  | rejected => exact absurd (h.rejected id hstate) hfate.not_rejected

theorem Justified.state_of_rejected {r : Run} (h : Justified m r) (hid : r.state id ≠ .unvisited)
    (hfate : Fated m .rejected id) : r.state id = .rejected := by
  cases hstate : r.state id with
  | unvisited => exact absurd hstate hid
  | emitted => exact absurd hfate (h.emitted id hstate).not_rejected
  | rejected => rfl

/-- By induction on the rules. A declaration that comes up is on record, and it does not wait, because the rules
have settled its base. So it is settled, and in the way that the rules leave. -/
theorem Fated.borneOut {fate : Fate} (h : Fated m fate id) (hclean : DistinctBy m Node.cleanName)
    (hquiet : Quiet m (atRest m config)) : BorneOut m config fate id := by
  have hrest : Reached m config ⟨.rest, atRest m config⟩ := reached_atRest m config
  have hjustified : Justified m (atRest m config) := (hrest.sound hclean).justified
  induction h with
  | topLevel hlast => exact (Found.topLevel hlast).settled_or_waiting
  | @inner owner id howner hchild he ht hemitted =>
      have hemitted : (atRest m config).state owner = .emitted := hemitted
      have hownere : (m.node owner).isEmittable = true :=
        (hrest.found_of_settled owner (by rw [hemitted]; decide)).isEmittable
      -- The owner counts as generated, and with distinct clean names it has been.
      have hname := hrest.called.cleanName_mem owner hemitted
      have hbegins := (hrest.begins_of_cleanName_mem hclean hownere hname).1
      exact (Found.inner hbegins hchild he ht).settled_or_waiting
  | @generated id hfound hready hmixed hrecord hbases =>
      have hsettled : (atRest m config).state id ≠ .unvisited := by
        refine hquiet.settled hrecord fun base hbase => ?_
        rw [hbases base hbase]
        decide
      exact hjustified.state_of_generated hsettled (Fated.generated hfound hready hmixed)
  | @mixed id hfound hready hmixed hrecord hbases =>
      have hsettled : (atRest m config).state id ≠ .unvisited := by
        refine hquiet.settled hrecord fun base hbase => ?_
        rw [hbases base hbase]
        decide
      exact hjustified.state_of_rejected hsettled (Fated.mixed hfound hready hmixed)
  | @base id base hfound hbase hrejected hrecord hstate =>
      have hsettled : (atRest m config).state id ≠ .unvisited := by
        refine hquiet.settled hrecord fun b hb => ?_
        rw [hbase, Option.some.injEq] at hb
        rw [← hb, hstate]
        decide
      exact hjustified.state_of_rejected hsettled (Fated.base hfound hbase hrejected)

/-! ### The report, by the rules -/

theorem state_eq_emitted_iff (hclean : DistinctBy m Node.cleanName) (hquiet : Quiet m (atRest m config)) :
    (atRest m config).state id = .emitted ↔ Fated m .generated id :=
  ⟨((reached_atRest m config).sound hclean).justified.emitted id, fun h => h.borneOut hclean hquiet⟩

theorem state_eq_rejected_iff (hclean : DistinctBy m Node.cleanName) (hquiet : Quiet m (atRest m config)) :
    (atRest m config).state id = .rejected ↔ Fated m .rejected id :=
  ⟨((reached_atRest m config).sound hclean).justified.rejected id, fun h => h.borneOut hclean hquiet⟩

/-- The declarations that still wait are those that come up and of which the rules say nothing else. -/
theorem mem_postponed_iff (hclean : DistinctBy m Node.cleanName) (hquiet : Quiet m (atRest m config)) :
    id ∈ (atRest m config).postponed ↔
      Fated m .found id ∧ ¬ Fated m .generated id ∧ ¬ Fated m .rejected id := by
  have hrest : Reached m config ⟨.rest, atRest m config⟩ := reached_atRest m config
  rw [← state_eq_emitted_iff hclean hquiet, ← state_eq_rejected_iff hclean hquiet]
  constructor
  · intro hid
    have hfound := (hrest.sound hclean).agenda id (mem_agenda_of_postponed hid)
    rw [state_of_mem_postponed hid]
    exact ⟨hfound, by decide, by decide⟩
  · rintro ⟨hfound, hemitted, hrejected⟩
    have hrecord : BorneOut m config .found id := hfound.borneOut hclean hquiet
    rcases hrecord with hsettled | hwaiting
    · cases hstate : (atRest m config).state id with
      | unvisited => exact absurd hstate hsettled
      | emitted => exact absurd hstate hemitted
      | rejected => exact absurd hstate hrejected
    · exact hwaiting

/-- The emitted names are those of the declarations that the rules generate. -/
theorem mem_emitted_iff (hclean : DistinctBy m Node.cleanName) (hquiet : Quiet m (atRest m config))
    {name : String} : name ∈ (generate config m).report.emitted ↔
      ∃ id, Fated m .generated id ∧ (m.node id).cleanName = name := by
  rw [mem_emitted_iff_state]
  simp only [state_eq_emitted_iff hclean hquiet]

/-- The rejected names are those of the declarations that the rules reject. -/
theorem mem_rejected_iff (hclean : DistinctBy m Node.cleanName) (hquiet : Quiet m (atRest m config))
    {name : String} : name ∈ (generate config m).report.rejected ↔
      ∃ id, Fated m .rejected id ∧ (m.node id).cleanName = name := by
  rw [mem_rejected_iff_state]
  simp only [state_eq_rejected_iff hclean hquiet]

/-- The unresolved entries are those of the declarations that the rules find and leave open. -/
theorem mem_unresolved_iff (hclean : DistinctBy m Node.cleanName) (hquiet : Quiet m (atRest m config))
    {entry : String × String} : entry ∈ (generate config m).report.unresolved ↔
      ∃ id, (Fated m .found id ∧ ¬ Fated m .generated id ∧ ¬ Fated m .rejected id) ∧
        unresolvedEntry m id = entry := by
  rw [mem_unresolved_iff_postponed]
  simp only [mem_postponed_iff hclean hquiet]

end SchemaBinding.Run
