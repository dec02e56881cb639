import SchemaBinding.Proofs.Generation.Agenda

/-!
# `SchemaBinding.Proofs.Generation.Report`: what the report says about declarations left out

A declaration that is not generated is either rejected on a visit, or it still waits in the end. Both are reported
by an entry and by a finding. `Logged` is the invariant for the rejections: the entries and the findings belong,
one to one and in order, to the declarations that count as rejected (`Reached.logged`). `generate_report` gives the
rest of the report, which is about the declarations that still wait.

The finding about a queue that does not settle is about no declaration. Its message differs from all others
(`error_ne_unsettledQueue`).
-/

set_option autoImplicit false

namespace SchemaBinding.Run

variable {m : Model} {config : Config}

/-- The entry for a declaration that still waits: its clean name and the base that it names. -/
def unresolvedEntry (m : Model) (id : NodeId) : String × String :=
  ((m.node id).cleanName, ((m.node id).base.or (m.node id).restrictionBase).getD "")

/-- The finding for a declaration that still waits. -/
def unresolvedFinding (m : Model) (id : NodeId) : Diagnostic :=
  Diagnostics.error (m.node id).name
    ("not generated: base " ++ Text.quoted (unresolvedEntry m id).2 ++ " never became available")

/-- The finding `d` says why the declaration `id` is rejected. -/
def RejectionFinding (m : Model) (r : Run) (id : NodeId) (d : Diagnostic) : Prop :=
  ∃ message, Refusal m r id message ∧ d = Diagnostics.error (m.node id).name message

/-! ### Findings about declarations -/

/-- The finding about the queue has a message of its own. -/
theorem error_ne_unsettledQueue {name message : String} (h : message.toList.head? = some 'n') :
    Diagnostics.error name message ≠ unsettledQueue := by
  intro heq
  have hmessage : message = unsettledQueue.message := congrArg Diagnostic.message heq
  -- The first letters differ.
  have hfirst : unsettledQueue.message.toList.head? = some 'p' := by decide
  rw [hmessage, hfirst] at h
  cases h

theorem Refusal.ne_unsettledQueue {r : Run} {id : NodeId} {message : String} (h : Refusal m r id message)
    (name : String) : Diagnostics.error name message ≠ unsettledQueue := by
  refine error_ne_unsettledQueue ?_
  cases h with
  | base hbase hstate => simp [String.toList_append]
  | mixed hready hmixed => decide

theorem unresolvedFinding_ne_unsettledQueue (m : Model) (id : NodeId) :
    unresolvedFinding m id ≠ unsettledQueue := by
  refine error_ne_unsettledQueue ?_
  simp [String.toList_append]

/-- The reason for a rejection lasts, since no step takes back what has become of the base. -/
theorem Refusal.mono {r r' : Run} {id : NodeId} {message : String} (h : Refusal m r id message)
    (hstate : ∀ x, r.state x ≠ .unvisited → r'.state x = r.state x) : Refusal m r' id message := by
  cases h with
  | @base base hbase hrejected =>
      refine Refusal.base hbase ?_
      rw [hstate base (by rw [hrejected]; decide), hrejected]
  | mixed hready hmixed =>
      refine Refusal.mixed (fun base hbase => ?_) hmixed
      rw [hstate base (by rw [hready base hbase]; decide), hready base hbase]

/-! ### Rejections -/

/-- The declarations `refused` are those that a run has rejected, and its report has an entry and a finding for
each of them. -/
structure Logged (m : Model) (r : Run) (refused : List NodeId) : Prop where
  nodup : refused.Nodup
  mem_iff : ∀ id, id ∈ refused ↔ r.state id = .rejected
  rejected_eq : r.report.rejected = refused.map fun id => (m.node id).cleanName
  findings : List.Forall₂ (RejectionFinding m r) refused r.declarationFindings

theorem logged_start (m : Model) : Logged m {} [] where
  nodup := List.nodup_nil
  mem_iff := by simp
  rejected_eq := rfl
  findings := .nil

/-- A run that keeps the record keeps the log. -/
theorem Logged.congr {r r' : Run} {refused : List NodeId} (h : Logged m r refused)
    (hmem : ∀ x, r'.state x = .rejected ↔ r.state x = .rejected)
    (hstate : ∀ x, r.state x ≠ .unvisited → r'.state x = r.state x)
    (hrejected : r'.report.rejected = r.report.rejected)
    (hfindings : r'.declarationFindings = r.declarationFindings) : Logged m r' refused where
  nodup := h.nodup
  mem_iff := fun id => (h.mem_iff id).trans (hmem id).symm
  rejected_eq := hrejected.trans h.rejected_eq
  findings := by
    rw [hfindings]
    refine h.findings.imp ?_
    rintro id d ⟨message, hwhy, heq⟩
    exact ⟨message, hwhy.mono hstate, heq⟩

theorem declarationFindings_reject {r : Run} {id : NodeId} {message : String} (h : Refusal m r id message) :
    (r.reject m id message).declarationFindings =
      r.declarationFindings ++ [Diagnostics.error (m.node id).name message] := by
  have hne := h.ne_unsettledQueue (m.node id).name
  simp [declarationFindings, reject, setState, List.filter_append, hne]

/-- A rejection adds the declaration to the log. -/
theorem Logged.reject {r : Run} {refused : List NodeId} (h : Logged m r refused) {id : NodeId}
    {message : String} (hnew : r.state id = .unvisited) (why : Refusal m r id message) :
    Logged m (r.reject m id message) (refused ++ [id]) := by
  -- Nothing was known of the declaration, so it is not in the log yet.
  have hold : id ∉ refused := by
    rw [h.mem_iff, hnew]
    decide
  have hstate : ∀ x, r.state x ≠ .unvisited → (r.reject m id message).state x = r.state x := by
    intro x hx
    rw [state_reject, if_neg]
    rintro rfl
    exact hx hnew
  refine ⟨?_, ?_, ?_, ?_⟩
  · rw [List.nodup_append]
    refine ⟨h.nodup, by simp, ?_⟩
    rintro a ha b hb rfl
    rw [List.mem_singleton.mp hb] at ha
    exact hold ha
  · intro x
    rw [List.mem_append, List.mem_singleton, h.mem_iff, state_reject]
    by_cases hx : x = id
    · simp [hx]
    · simp [hx]
  · rw [List.map_append, ← h.rejected_eq]
    rfl
  · rw [declarationFindings_reject why]
    refine List.rel_append ?_ (.cons ⟨message, why.mono hstate, rfl⟩ .nil)
    refine h.findings.imp ?_
    rintro x d ⟨message', hwhy, heq⟩
    exact ⟨message', hwhy.mono hstate, heq⟩

/-- The rejections of a run are logged at every moment. -/
theorem Reached.logged {s : Moment} (h : Reached m config s) : ∃ refused, Logged m s.run refused := by
  refine h.run_invariant (P := fun r => ∃ refused, Logged m r refused) ⟨[], logged_start m⟩ ?_ ?_
  · rintro r r' id hvisit ⟨refused, hlogged⟩
    rcases hvisit.rejects_or_same with ⟨message, why, hnew, rfl⟩ | ⟨hrejected, hfindings, hstate⟩
    · exact ⟨refused ++ [id], hlogged.reject hnew why⟩
    · refine ⟨refused, hlogged.congr hstate (fun x => hvisit.state_eq_of_settled) hrejected ?_⟩
      unfold declarationFindings
      rw [hfindings]
  · rintro r r' hsame ⟨refused, hlogged⟩
    have hstate := hsame.state
    exact ⟨refused, hlogged.congr (fun x => by rw [hstate]) (fun x _ => hstate x) hsame.rejected hsame.findings⟩

/-! ### The report -/

theorem unresolved_atRest (m : Model) (config : Config) : (atRest m config).report.unresolved = [] := by
  have h : Reached m config ⟨.rest, atRest m config⟩ := reached_atRest m config
  exact h.run_invariant (P := fun r => r.report.unresolved = []) rfl
    (fun _ _ _ hvisit hr => hvisit.unresolved_eq.trans hr) fun _ _ hsame hr => hsame.unresolved.trans hr

/-- The report lists the declarations that still wait, and has a finding for each of them. -/
theorem generate_report (m : Model) (config : Config) :
    (generate config m).report.emitted = (atRest m config).report.emitted ∧
      (generate config m).report.rejected = (atRest m config).report.rejected ∧
      (generate config m).report.unresolved = (atRest m config).postponed.map (unresolvedEntry m) ∧
      (generate config m).report.findings =
        (atRest m config).report.findings ++ (atRest m config).postponed.map (unresolvedFinding m) := by
  refine ⟨rfl, rfl, ?_, rfl⟩
  have h : (generate config m).report.unresolved =
      (atRest m config).report.unresolved ++ (atRest m config).postponed.map (unresolvedEntry m) := rfl
  rw [h, unresolved_atRest, List.nil_append]

end SchemaBinding.Run
