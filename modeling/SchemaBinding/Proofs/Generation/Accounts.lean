import SchemaBinding.Proofs.Generation.Calls
import SchemaBinding.Proofs.Generation.Report

/-!
# `SchemaBinding.Proofs.Generation.Accounts`: every declaration is accounted for

A run ends, and its report accounts for every declaration that comes up. The clean name of such a declaration is
among the emitted names, among the rejected ones, or in an entry for a declaration whose base never came. In the
other direction, each of these names belongs to a declaration that has come up. `found_accounted` states this,
together with what keeps a declaration from being generated and with how the report explains what it leaves out.

The statements hold for all models, also where nodes share children or contain each other, and where a drain gives
up its passes. A declaration that only shares its clean name with a generated one counts as generated, but it does not
begin a type (`Begins`), and the types inside of it do not come up.
-/

set_option autoImplicit false

namespace SchemaBinding

/-- The three places where a report can name a declaration. -/
def Report.Names (report : Report) (name : String) : Prop :=
  name ∈ report.emitted ∨ name ∈ report.rejected ∨ name ∈ report.unresolved.map (·.1)

namespace Run

variable {m : Model} {config : Config}

/-! ### What is settled, and why -/

/-- Only found declarations are settled, since only they are visited. -/
theorem Reached.found_of_settled {s : Moment} (h : Reached m config s) :
    ∀ id, s.run.state id ≠ .unvisited → Found m config id := by
  refine h.invariant (P := fun s => ∀ id, s.run.state id ≠ .unvisited → Found m config id) ?_ ?_
  · intro id hid
    exact absurd (state_start id) hid
  · intro s t hs hstep hfound id hid
    rcases hstep.visit_or_same with ⟨x, htodo, hvisit⟩ | ⟨hsame, -⟩
    · by_cases hx : id = x
      · -- The step may have settled the visited declaration, which was due.
        refine hs.agenda_found id (mem_agenda_of_todo ?_)
        rw [htodo, hx]
        exact List.mem_cons_self
      · rw [hvisit.state_eq_of_ne hx] at hid
        exact hfound id hid
    · rw [hsame.state] at hid
      exact hfound id hid

/-- Each emitted name is the clean name of a declaration that the run has generated. -/
theorem Reached.exists_begins {s : Moment} (h : Reached m config s) :
    ∀ name ∈ s.run.report.emitted, ∃ id, Begins m config id ∧ s.run.state id = .emitted ∧
      (m.node id).cleanName = name := by
  refine h.invariant (P := fun s => ∀ name ∈ s.run.report.emitted, ∃ id, Begins m config id ∧
    s.run.state id = .emitted ∧ (m.node id).cleanName = name) ?_ ?_
  · intro name hname
    cases hname
  · intro s t hs hstep hold name hname
    -- What counts as generated before the step does so after it.
    have hlater : ∀ id, s.run.state id = .emitted → t.run.state id = .emitted := by
      intro id hid
      rw [hstep.state_eq_of_settled (by rw [hid]; decide), hid]
    have hkeep : name ∈ s.run.report.emitted → ∃ id, Begins m config id ∧ t.run.state id = .emitted ∧
        (m.node id).cleanName = name := by
      intro hmem
      obtain ⟨id, hbegins, hstate, hclean⟩ := hold name hmem
      exact ⟨id, hbegins, hlater id hstate, hclean⟩
    rcases hstep.visit_or_same with ⟨x, htodo, hvisit⟩ | ⟨hsame, -⟩
    · rcases hvisit.emits_or_same with heq | ⟨heq, hstate, hcalls⟩
      · exact hkeep (heq ▸ hname)
      · rw [heq] at hname
        rcases List.mem_append.mp hname with hmem | hnew
        · exact hkeep hmem
        · exact ⟨x, hstep.begins hs htodo hcalls, hstate, (List.mem_singleton.mp hnew).symm⟩
    · exact hkeep (hsame.emitted ▸ hname)

/-- With distinct clean names, a declaration whose name is among the emitted ones has been generated itself. -/
theorem Reached.begins_of_cleanName_mem {s : Moment} {id : NodeId} (h : Reached m config s)
    (hclean : DistinctBy m Node.cleanName) (he : (m.node id).isEmittable = true)
    (hname : (m.node id).cleanName ∈ s.run.report.emitted) :
    Begins m config id ∧ s.run.state id = .emitted := by
  obtain ⟨x, hbegins, hstate, heq⟩ := h.exists_begins _ hname
  have hxe : (m.node x).isEmittable = true := (h.found_of_settled x (by rw [hstate]; decide)).isEmittable
  rw [← hclean x id hxe he heq]
  exact ⟨hbegins, hstate⟩

/-- A generated declaration has consistent content, and its base is not rejected. -/
theorem Begins.consistent {id : NodeId} (h : Begins m config id) :
    (m.node id).mixedExtensionError = false ∧
      ∀ base, parent? m id = some base → (atRest m config).state base ≠ .rejected := by
  obtain ⟨s, t, hs, -, hvisit, hcalls⟩ := h.exists_visit
  obtain ⟨-, -, hready, hmixed⟩ := hvisit.generated_of_calls_ne hcalls
  refine ⟨hmixed, fun base hbase => ?_⟩
  rw [hs.state_atRest (by decide) (hready base hbase)]
  decide

/-! ### The names in the report -/

/-- The emitted names are the clean names of the declarations that count as generated in the end. -/
theorem mem_emitted_iff_state {name : String} :
    name ∈ (generate config m).report.emitted ↔
      ∃ id, (atRest m config).state id = .emitted ∧ (m.node id).cleanName = name := by
  have hrest : Reached m config ⟨.rest, atRest m config⟩ := reached_atRest m config
  rw [(generate_report m config).1]
  constructor
  · intro hname
    obtain ⟨id, -, hstate, hclean⟩ := hrest.exists_begins name hname
    exact ⟨id, hstate, hclean⟩
  · rintro ⟨id, hstate, rfl⟩
    exact hrest.called.cleanName_mem id hstate

theorem mem_rejected_iff_state {name : String} :
    name ∈ (generate config m).report.rejected ↔
      ∃ id, (atRest m config).state id = .rejected ∧ (m.node id).cleanName = name := by
  obtain ⟨refused, hlogged⟩ := (reached_atRest m config).logged
  have hlogged : Logged m (atRest m config) refused := hlogged
  rw [(generate_report m config).2.1, hlogged.rejected_eq, List.mem_map]
  simp only [hlogged.mem_iff]

theorem mem_unresolved_iff_postponed {entry : String × String} :
    entry ∈ (generate config m).report.unresolved ↔
      ∃ id ∈ (atRest m config).postponed, unresolvedEntry m id = entry := by
  rw [(generate_report m config).2.2.1, List.mem_map]

/-- The report names the declarations that have come up, and no others. -/
theorem names_iff {name : String} :
    (generate config m).report.Names name ↔ ∃ id, Found m config id ∧ (m.node id).cleanName = name := by
  have hrest : Reached m config ⟨.rest, atRest m config⟩ := reached_atRest m config
  constructor
  · rintro (hname | hname | hname)
    · obtain ⟨id, hstate, hclean⟩ := mem_emitted_iff_state.mp hname
      exact ⟨id, hrest.found_of_settled id (by rw [hstate]; decide), hclean⟩
    · obtain ⟨id, hstate, hclean⟩ := mem_rejected_iff_state.mp hname
      exact ⟨id, hrest.found_of_settled id (by rw [hstate]; decide), hclean⟩
    · obtain ⟨entry, hentry, rfl⟩ := List.mem_map.mp hname
      obtain ⟨id, hid, rfl⟩ := mem_unresolved_iff_postponed.mp hentry
      exact ⟨id, hrest.agenda_found id (mem_agenda_of_postponed hid), rfl⟩
  · rintro ⟨id, hfound, rfl⟩
    rcases hfound.settled_or_waiting with hsettled | hwaiting
    · cases hstate : (atRest m config).state id with
      | unvisited => exact absurd hstate hsettled
      | emitted => exact Or.inl (mem_emitted_iff_state.mpr ⟨id, hstate, rfl⟩)
      | rejected => exact Or.inr (Or.inl (mem_rejected_iff_state.mpr ⟨id, hstate, rfl⟩))
    · have hentry := mem_unresolved_iff_postponed.mpr ⟨id, hwaiting, rfl⟩
      exact Or.inr (Or.inr (List.mem_map.mpr ⟨_, hentry, rfl⟩))

/-! ### The declarations left out -/

/-- The declarations `refused` and those that still wait are the ones left out. Each has one entry in the report,
and one finding of those about declarations, in the same order. -/
theorem exists_refused (m : Model) (config : Config) :
    ∃ refused rejections,
      (refused ++ (atRest m config).postponed).Nodup ∧
      (generate config m).report.rejected = refused.map (fun id => (m.node id).cleanName) ∧
      (generate config m).report.unresolved = (atRest m config).postponed.map (unresolvedEntry m) ∧
      List.Forall₂ (RejectionFinding m (atRest m config)) refused rejections ∧
      (generate config m).report.findings.filter (· ≠ unsettledQueue) =
        rejections ++ (atRest m config).postponed.map (unresolvedFinding m) := by
  have hrest : Reached m config ⟨.rest, atRest m config⟩ := reached_atRest m config
  obtain ⟨-, hrejected, hunresolved, hfindings⟩ := generate_report m config
  obtain ⟨refused, hlogged⟩ := hrest.logged
  have hlogged : Logged m (atRest m config) refused := hlogged
  refine ⟨refused, _, ?_, ?_, hunresolved, hlogged.findings, ?_⟩
  · refine List.nodup_append.mpr ⟨hlogged.nodup, hrest.nodup_postponed, ?_⟩
    -- A rejected declaration does not wait, since nothing is known of those that do.
    rintro a ha b hb rfl
    have hstate := (hlogged.mem_iff a).mp ha
    rw [state_of_mem_postponed hb] at hstate
    cases hstate
  · rw [hrejected, hlogged.rejected_eq]
  · rw [hfindings, List.filter_append]
    congr 1
    -- The findings about waiting declarations are not about the queue.
    refine List.filter_eq_self.mpr ?_
    intro d hd
    obtain ⟨id, -, rfl⟩ := List.mem_map.mp hd
    simpa using unresolvedFinding_ne_unsettledQueue m id

/-- A run ends: each moment leads to the rest, and no sequence of steps is endless.

The report names a declaration if and only if it has come up.

A declaration with inconsistent content, or with a rejected base, is never generated.

The declarations `refused` and those that still wait are the ones left out. No declaration is left out twice. Each
has one entry, and one finding of those about declarations, in the same order. -/
theorem found_accounted (m : Model) (config : Config) :
    (Acc (fun t s => Step m config s t) (.start m) ∧
        ∀ s, Reached m config s → Steps m config s ⟨.rest, atRest m config⟩) ∧
      (∀ id, Found m config id → (generate config m).report.Names (m.node id).cleanName) ∧
      (∀ name, (generate config m).report.Names name →
        ∃ id, Found m config id ∧ (m.node id).isEmittable = true ∧ (m.node id).cleanName = name) ∧
      (∀ id, (m.node id).mixedExtensionError = true ∨
          (∃ base, parent? m id = some base ∧ (atRest m config).state base = .rejected) →
        ¬ Begins m config id) ∧
      ∃ refused rejections,
        (refused ++ (atRest m config).postponed).Nodup ∧
        (generate config m).report.rejected = refused.map (fun id => (m.node id).cleanName) ∧
        (generate config m).report.unresolved = (atRest m config).postponed.map (unresolvedEntry m) ∧
        List.Forall₂ (RejectionFinding m (atRest m config)) refused rejections ∧
        (generate config m).report.findings.filter (· ≠ unsettledQueue) =
          rejections ++ (atRest m config).postponed.map (unresolvedFinding m) := by
  refine ⟨⟨acc_start m config, fun s hs => hs.steps_to_rest⟩, ?_, ?_, ?_, exists_refused m config⟩
  · intro id hfound
    exact names_iff.mpr ⟨id, hfound, rfl⟩
  · intro name hname
    obtain ⟨id, hid, hclean⟩ := names_iff.mp hname
    exact ⟨id, hid, hid.isEmittable, hclean⟩
  · rintro id hbad hbegins
    obtain ⟨hmixed, hbase⟩ := hbegins.consistent
    rcases hbad with hinconsistent | ⟨base, hparent, hstate⟩
    · rw [hmixed] at hinconsistent
      cases hinconsistent
    · exact hbase base hparent hstate

end Run

end SchemaBinding
