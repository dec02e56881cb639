import SchemaBinding.Binding.Generation

/-!
# `SchemaBinding.Proofs.Generation.Visit`: what one visit can do

A visit looks at what has become of a declaration and of the type that it derives from. `visit_outcome` says
that it ends in one of five ways, the members of `Visit`: nothing happens, the declaration counts as generated
because its clean name has been, it starts to wait, it is rejected, or it is generated. Each member carries
what held before the visit, and gives the run after it. The proofs about runs split a visit by this relation
and do not open `Run.visit`.

To generate a declaration also puts types inside of it into a queue. `exists_emit_eq` gives the run after
that as one record, with the new entries of the queue named, so that all its other parts can be read off.
-/

set_option autoImplicit false

namespace SchemaBinding.Run

/-! ### What has become of a declaration -/

@[simp]
theorem state_start (id : NodeId) : ({} : Run).state id = .unvisited := rfl

/-- What a run holds of a declaration only depends on its list of states. -/
theorem state_congr {r r' : Run} (h : r'.states = r.states) (id : NodeId) : r'.state id = r.state id := by
  unfold state
  rw [h]

theorem state_of_states_cons {r r' : Run} {id : NodeId} {s : NodeState} (h : r'.states = (id, s) :: r.states)
    (x : NodeId) : r'.state x = if x = id then s else r.state x := by
  unfold state
  rw [h, List.lookup_cons]
  by_cases hx : x = id
  · simp [hx]
  · have hne : (x == id) = false := by simpa using hx
    simp [hne, hx]

theorem state_setState (r : Run) (id : NodeId) (s : NodeState) (x : NodeId) :
    (r.setState id s).state x = if x = id then s else r.state x :=
  state_of_states_cons rfl x

theorem state_reject (m : Model) (r : Run) (id : NodeId) (message : String) (x : NodeId) :
    (r.reject m id message).state x = if x = id then .rejected else r.state x :=
  state_of_states_cons rfl x

/-! ### The queue of declarations that wait -/

theorem mem_postpone {r : Run} {id x : NodeId} :
    x ∈ (r.postpone id).postponed ↔ x ∈ r.postponed ∨ x = id := by
  unfold postpone
  split
  · rename_i h
    have hid : id ∈ r.postponed := by simpa using h
    constructor
    · exact Or.inl
    · rintro (hx | rfl)
      · exact hx
      · exact hid
  · simp

/-- Apart from the queue, nothing changes for a run when a declaration starts to wait. -/
theorem postpone_eq (r : Run) (id : NodeId) :
    r.postpone id = { r with postponed := (r.postpone id).postponed } := by
  unfold postpone
  split <;> rfl

theorem state_postpone (r : Run) (id x : NodeId) : (r.postpone id).state x = r.state x := by
  rw [postpone_eq]
  rfl

theorem length_postpone_le (r : Run) (id : NodeId) :
    (r.postpone id).postponed.length ≤ r.postponed.length + 1 := by
  unfold postpone
  split <;> simp

theorem nodup_postpone {r : Run} (h : r.postponed.Nodup) (id : NodeId) : (r.postpone id).postponed.Nodup := by
  unfold postpone
  split
  · exact h
  · rename_i hnew
    have hid : id ∉ r.postponed := by simpa using hnew
    exact List.nodup_append.mpr ⟨h, by simp, by rintro a ha b hb rfl; simp_all⟩

/-! ### The types inside of a generated declaration -/

/-- The entries `new` that the queue of inner types gets when `children` are gone through: each is one of
`children`, emittable and not of the top level, and no such child is missing that nothing is known of. -/
structure NewInner (m : Model) (r : Run) (children new : List NodeId) : Prop where
  mem_children : ∀ x ∈ new, x ∈ children
  isEmittable : ∀ x ∈ new, (m.node x).isEmittable = true
  isTopLevel : ∀ x ∈ new, (m.node x).isTopLevel = false
  complete : ∀ x ∈ children, (m.node x).isEmittable = true → (m.node x).isTopLevel = false →
    r.state x = .unvisited → x ∈ r.queued ++ new

/-- A child that goes into the queue has not been there, and one that stays out has been there or is not to be
generated. -/
theorem exists_queueInner_eq (m : Model) (r : Run) (id : NodeId) :
    ∃ new, r.queueInner m id = { r with pending := r.pending ++ new, queued := r.queued ++ new } ∧
      NewInner m r [id] new := by
  unfold queueInner
  simp only
  split
  · rename_i h
    simp only [Bool.and_eq_true, Bool.not_eq_true', decide_eq_true_eq] at h
    refine ⟨[id], rfl, ⟨by simp, ?_, ?_, by simp⟩⟩
    · rintro x hx
      rw [List.mem_singleton.mp hx]
      exact h.1.1.1
    · rintro x hx
      rw [List.mem_singleton.mp hx]
      exact h.1.1.2
  · rename_i h
    refine ⟨[], by simp, ⟨by simp, by simp, by simp, ?_⟩⟩
    rintro x hx he ht hs
    rw [List.mem_singleton.mp hx] at *
    -- Only the test for an earlier entry can have failed.
    simpa [he, ht, hs] using h

theorem exists_foldl_queueInner_eq (m : Model) (children : List NodeId) (r : Run) :
    ∃ new, children.foldl (queueInner m) r = { r with pending := r.pending ++ new, queued := r.queued ++ new } ∧
      NewInner m r children new := by
  induction children generalizing r with
  | nil => exact ⟨[], by simp, ⟨by simp, by simp, by simp, by simp⟩⟩
  | cons child rest ih =>
      obtain ⟨first, hfirst, hf⟩ := exists_queueInner_eq m r child
      rw [List.foldl_cons, hfirst]
      -- The rest is gone through with `first` in the queue, so no child is put there twice.
      obtain ⟨others, hothers, ho⟩ :=
        ih { r with pending := r.pending ++ first, queued := r.queued ++ first }
      rw [hothers]
      refine ⟨first ++ others, by simp, ⟨?_, ?_, ?_, ?_⟩⟩
      · intro x hx
        rcases List.mem_append.mp hx with hx | hx
        · exact List.mem_cons.mpr (Or.inl (List.mem_singleton.mp (hf.mem_children x hx)))
        · exact List.mem_cons_of_mem _ (ho.mem_children x hx)
      · intro x hx
        exact (List.mem_append.mp hx).elim (hf.isEmittable x) (ho.isEmittable x)
      · intro x hx
        exact (List.mem_append.mp hx).elim (hf.isTopLevel x) (ho.isTopLevel x)
      · intro x hx he ht hs
        rw [← List.append_assoc]
        rcases List.mem_cons.mp hx with rfl | hx
        · exact List.mem_append_left _ (hf.complete x (by simp) he ht hs)
        · exact ho.complete x hx he ht hs

/-- The run after a declaration has been generated. -/
theorem exists_emit_eq (m : Model) (config : Config) (r : Run) (id : NodeId) (base : Option NodeId) :
    ∃ new, r.emit m config id base =
        { r with
          states := (id, .emitted) :: r.states
          pending := r.pending ++ new
          queued := r.queued ++ new
          calls := r.calls ++ typeCalls m config (m.node id) (base.map m.node)
          report := { r.report with emitted := r.report.emitted ++ [(m.node id).cleanName] } } ∧
      NewInner m (r.setState id .emitted) (m.node id).children new := by
  obtain ⟨new, heq, hnew⟩ := exists_foldl_queueInner_eq m (m.node id).children
    { r.setState id .emitted with
      calls := r.calls ++ typeCalls m config (m.node id) (base.map m.node)
      report := { r.report with emitted := r.report.emitted ++ [(m.node id).cleanName] } }
  refine ⟨new, heq, ⟨hnew.mem_children, hnew.isEmittable, hnew.isTopLevel, ?_⟩⟩
  intro x hx he ht hs
  exact hnew.complete x hx he ht hs

theorem state_emit (m : Model) (config : Config) (r : Run) (id : NodeId) (base : Option NodeId) (x : NodeId) :
    (r.emit m config id base).state x = if x = id then .emitted else r.state x := by
  obtain ⟨new, heq, -⟩ := exists_emit_eq m config r id base
  exact state_of_states_cons (by rw [heq]) x

/-! ### The outcomes of a visit -/

/-- The type that a declaration derives from has been generated, if there is one. -/
def BaseReady (m : Model) (r : Run) (id : NodeId) : Prop :=
  ∀ base, parent? m id = some base → r.state base = .emitted

/-- Why a declaration is rejected, with the message that says so. -/
inductive Refusal (m : Model) (r : Run) (id : NodeId) : String → Prop where
  | base {base : NodeId} (hbase : parent? m id = some base) (hstate : r.state base = .rejected) :
      Refusal m r id ("not generated: base " ++ Text.quoted (m.node base).name ++ " was rejected")
  | mixed (hready : BaseReady m r id) (hmixed : (m.node id).mixedExtensionError = true) :
      Refusal m r id "not generated: mixed content is inconsistent along its extension chain"

/-- The runs that a visit of the declaration `id` can lead to from the run `r`. -/
inductive Visit (m : Model) (config : Config) (r : Run) (id : NodeId) : Run → Prop where
  | settled (hold : r.state id ≠ .unvisited) : Visit m config r id r
  | named (hnew : r.state id = .unvisited) (hname : (m.node id).cleanName ∈ r.report.emitted) :
      Visit m config r id (r.setState id .emitted)
  | postponed (hnew : r.state id = .unvisited) {base : NodeId} (hbase : parent? m id = some base)
      (hwait : r.state base = .unvisited) : Visit m config r id (r.postpone id)
  | rejected (hnew : r.state id = .unvisited) {message : String} (why : Refusal m r id message) :
      Visit m config r id (r.reject m id message)
  | generated (hnew : r.state id = .unvisited) (hname : (m.node id).cleanName ∉ r.report.emitted)
      (hready : BaseReady m r id) (hmixed : (m.node id).mixedExtensionError = false) :
      Visit m config r id (r.emit m config id (parent? m id))

/-- A declaration whose base is ready is generated, unless its mixed content is inconsistent. -/
theorem settle_outcome {m : Model} (config : Config) {r : Run} {id : NodeId} (hnew : r.state id = .unvisited)
    (hname : (m.node id).cleanName ∉ r.report.emitted) (hready : BaseReady m r id) :
    Visit m config r id (r.settle m config id (parent? m id)) := by
  unfold settle
  cases hmixed : (m.node id).mixedExtensionError with
  | true => exact Visit.rejected hnew (.mixed hready hmixed)
  | false => exact Visit.generated hnew hname hready hmixed

/-- Every visit ends in one of the five ways. -/
theorem visit_outcome (m : Model) (config : Config) (r : Run) (id : NodeId) :
    Visit m config r id (r.visit m config id) := by
  unfold visit
  split
  · rename_i hold
    exact Visit.settled hold
  · rename_i hold
    have hnew : r.state id = .unvisited := Decidable.not_not.mp hold
    split
    · rename_i hname
      exact Visit.named hnew (by simpa using hname)
    · rename_i hname
      have hname : (m.node id).cleanName ∉ r.report.emitted := by simpa using hname
      split
      · rename_i hbase
        -- Without a base, there is none to be ready.
        have hready : BaseReady m r id := fun base h => by rw [hbase] at h; cases h
        have h := settle_outcome config hnew hname hready
        rwa [hbase] at h
      · rename_i base hbase
        split
        · rename_i hstate
          have hready : BaseReady m r id := fun b h => by rw [hbase] at h; cases h; exact hstate
          have h := settle_outcome config hnew hname hready
          rwa [hbase] at h
        · rename_i hstate
          exact Visit.rejected hnew (.base hbase hstate)
        · rename_i hstate
          exact Visit.postponed hnew hbase hstate

/-- A visit changes what is known of the visited declaration alone. -/
theorem Visit.state_eq_of_ne {m : Model} {config : Config} {r r' : Run} {id x : NodeId}
    (h : Visit m config r id r') (hx : x ≠ id) : r'.state x = r.state x := by
  cases h with
  | settled hold => rfl
  | named hnew hname => rw [state_setState, if_neg hx]
  | postponed hnew hbase hwait => exact state_postpone r id x
  | rejected hnew why => rw [state_reject, if_neg hx]
  | generated hnew hname hready hmixed => rw [state_emit, if_neg hx]

/-- What has become of a declaration is never taken back. -/
theorem Visit.state_eq_of_settled {m : Model} {config : Config} {r r' : Run} {id x : NodeId}
    (h : Visit m config r id r') (hx : r.state x ≠ .unvisited) : r'.state x = r.state x := by
  by_cases hne : x = id
  · subst hne
    -- Every other outcome takes a declaration of which nothing is known.
    cases h with
    | settled hold => rfl
    | named hnew => exact absurd hnew hx
    | postponed hnew => exact absurd hnew hx
    | rejected hnew => exact absurd hnew hx
    | generated hnew => exact absurd hnew hx
  · exact h.state_eq_of_ne hne

/-- A visit settles the declaration and leaves the queue as it is, or all that it does is to put the
declaration into the queue, because nothing is known of the type that it derives from. -/
theorem Visit.settles_or_postpones {m : Model} {config : Config} {r r' : Run} {id : NodeId}
    (h : Visit m config r id r') :
    (r'.state id ≠ .unvisited ∧ r'.postponed = r.postponed) ∨
      (r' = r.postpone id ∧ r.state id = .unvisited ∧
        ∃ base, parent? m id = some base ∧ r.state base = .unvisited) := by
  cases h with
  | settled hold => exact Or.inl ⟨hold, rfl⟩
  | named hnew hname => exact Or.inl ⟨by simp [state_setState], rfl⟩
  | @postponed hnew base hbase hwait => exact Or.inr ⟨rfl, hnew, base, hbase, hwait⟩
  | rejected hnew why => exact Or.inl ⟨by simp [state_reject], rfl⟩
  | generated hnew hname hready hmixed =>
      have hstate := state_emit m config r id (parent? m id) id
      obtain ⟨new, heq, -⟩ := exists_emit_eq m config r id (parent? m id)
      refine Or.inl ⟨?_, by rw [heq]⟩
      rw [hstate, if_pos rfl]
      decide

/-- After its visit, a declaration is settled or waits. -/
theorem Visit.settled_or_postponed {m : Model} {config : Config} {r r' : Run} {id : NodeId}
    (h : Visit m config r id r') : r'.state id ≠ .unvisited ∨ id ∈ r'.postponed := by
  rcases h.settles_or_postpones with ⟨hsettled, -⟩ | ⟨rfl, -, -⟩
  · exact Or.inl hsettled
  · exact Or.inr (mem_postpone.mpr (Or.inr rfl))

/-- No visit takes a declaration off the queue. -/
theorem Visit.mem_postponed {m : Model} {config : Config} {r r' : Run} {id x : NodeId}
    (h : Visit m config r id r') (hx : x ∈ r.postponed) : x ∈ r'.postponed := by
  rcases h.settles_or_postpones with ⟨-, heq⟩ | ⟨rfl, -, -⟩
  · rwa [heq]
  · exact mem_postpone.mpr (Or.inl hx)

theorem Visit.nodup_postponed {m : Model} {config : Config} {r r' : Run} {id : NodeId}
    (h : Visit m config r id r') (hr : r.postponed.Nodup) : r'.postponed.Nodup := by
  rcases h.settles_or_postpones with ⟨-, heq⟩ | ⟨rfl, -, -⟩
  · rwa [heq]
  · exact nodup_postpone hr id

/-- A visit rejects the declaration, or it leaves the rejections and the findings as they are. -/
theorem Visit.rejects_or_same {m : Model} {config : Config} {r r' : Run} {id : NodeId}
    (h : Visit m config r id r') :
    (∃ message, Refusal m r id message ∧ r.state id = .unvisited ∧ r' = r.reject m id message) ∨
      (r'.report.rejected = r.report.rejected ∧ r'.report.findings = r.report.findings ∧
        ∀ x, r'.state x = .rejected ↔ r.state x = .rejected) := by
  cases h with
  | settled hold => exact Or.inr ⟨rfl, rfl, fun _ => Iff.rfl⟩
  | named hnew hname =>
      refine Or.inr ⟨rfl, rfl, fun x => ?_⟩
      -- Nothing was known of the declaration, so it was not rejected before either.
      rw [state_setState]
      by_cases hx : x = id
      · simp [hx, hnew]
      · rw [if_neg hx]
  | postponed hnew hbase hwait =>
      refine Or.inr ⟨by rw [postpone_eq], by rw [postpone_eq], fun x => ?_⟩
      rw [state_postpone]
  | @rejected hnew message why => exact Or.inl ⟨message, why, hnew, rfl⟩
  | generated hnew hname hready hmixed =>
      have hstate := state_emit m config r id (parent? m id)
      obtain ⟨new, heq, -⟩ := exists_emit_eq m config r id (parent? m id)
      refine Or.inr ⟨by rw [heq], by rw [heq], fun x => ?_⟩
      rw [hstate]
      by_cases hx : x = id
      · simp [hx, hnew]
      · rw [if_neg hx]

theorem Visit.unresolved_eq {m : Model} {config : Config} {r r' : Run} {id : NodeId}
    (h : Visit m config r id r') : r'.report.unresolved = r.report.unresolved := by
  cases h with
  | settled | named | rejected => rfl
  | postponed => rw [postpone_eq]
  | generated =>
      obtain ⟨new, heq, -⟩ := exists_emit_eq m config r id (parent? m id)
      rw [heq]

/-! ### Visits that generate -/

theorem calls_emit_ne (m : Model) (config : Config) (r : Run) (id : NodeId) (base : Option NodeId) :
    (r.emit m config id base).calls ≠ r.calls := by
  obtain ⟨new, heq, -⟩ := exists_emit_eq m config r id base
  rw [heq]
  simp [typeCalls]

/-- A visit that calls the back end generates the declaration. -/
theorem Visit.generated_of_calls_ne {m : Model} {config : Config} {r r' : Run} {id : NodeId}
    (h : Visit m config r id r') (hcalls : r'.calls ≠ r.calls) :
    r' = r.emit m config id (parent? m id) ∧ (m.node id).cleanName ∉ r.report.emitted ∧
      BaseReady m r id ∧ (m.node id).mixedExtensionError = false := by
  cases h with
  | settled hold => exact absurd rfl hcalls
  | named hnew hname => exact absurd rfl hcalls
  | postponed hnew hbase hwait =>
      rw [postpone_eq] at hcalls
      exact absurd rfl hcalls
  | rejected hnew why => exact absurd rfl hcalls
  | generated hnew hname hready hmixed => exact ⟨rfl, hname, hready, hmixed⟩

theorem Visit.state_of_calls_ne {m : Model} {config : Config} {r r' : Run} {id : NodeId}
    (h : Visit m config r id r') (hcalls : r'.calls ≠ r.calls) : r'.state id = .emitted := by
  obtain ⟨rfl, -⟩ := h.generated_of_calls_ne hcalls
  rw [state_emit, if_pos rfl]

/-- A visit adds no emitted name but that of the declaration it generates. -/
theorem Visit.emits_or_same {m : Model} {config : Config} {r r' : Run} {id : NodeId}
    (h : Visit m config r id r') :
    r'.report.emitted = r.report.emitted ∨
      (r'.report.emitted = r.report.emitted ++ [(m.node id).cleanName] ∧ r'.state id = .emitted ∧
        r'.calls ≠ r.calls) := by
  cases h with
  | settled hold => exact Or.inl rfl
  | named hnew hname => exact Or.inl rfl
  | postponed hnew hbase hwait =>
      rw [postpone_eq]
      exact Or.inl rfl
  | rejected hnew why => exact Or.inl rfl
  | generated hnew hname hready hmixed =>
      have hne := calls_emit_ne m config r id (parent? m id)
      have hstate := state_emit m config r id (parent? m id) id
      rw [if_pos rfl] at hstate
      obtain ⟨new, heq, -⟩ := exists_emit_eq m config r id (parent? m id)
      exact Or.inr ⟨by rw [heq], hstate, hne⟩

/-- The entries that a visit adds to the queue of inner types are children of the declaration that it
generates. -/
theorem Visit.exists_new {m : Model} {config : Config} {r r' : Run} {id : NodeId}
    (h : Visit m config r id r') :
    ∃ new, r'.pending = r.pending ++ new ∧ r'.queued = r.queued ++ new ∧
      ∀ x ∈ new, r'.calls ≠ r.calls ∧ x ∈ (m.node id).children ∧ (m.node x).isEmittable = true ∧
        (m.node x).isTopLevel = false := by
  cases h with
  | settled hold => exact ⟨[], by simp, by simp, by simp⟩
  | named hnew hname => exact ⟨[], by simp [setState], by simp [setState], by simp⟩
  | postponed hnew hbase hwait =>
      rw [postpone_eq]
      exact ⟨[], by simp, by simp, by simp⟩
  | rejected hnew why => exact ⟨[], by simp [reject, setState], by simp [reject, setState], by simp⟩
  | generated hnew hname hready hmixed =>
      have hne := calls_emit_ne m config r id (parent? m id)
      obtain ⟨new, heq, hinner⟩ := exists_emit_eq m config r id (parent? m id)
      refine ⟨new, by rw [heq], by rw [heq], ?_⟩
      intro x hx
      exact ⟨hne, hinner.mem_children x hx, hinner.isEmittable x hx, hinner.isTopLevel x hx⟩

/-- The types inside of a declaration that a visit generates are settled or have been put into their queue. -/
theorem Visit.settled_or_queued {m : Model} {config : Config} {r r' : Run} {id x : NodeId}
    (h : Visit m config r id r') (hcalls : r'.calls ≠ r.calls) (hchild : x ∈ (m.node id).children)
    (he : (m.node x).isEmittable = true) (ht : (m.node x).isTopLevel = false) :
    r'.state x ≠ .unvisited ∨ x ∈ r'.queued := by
  obtain ⟨rfl, -, -, -⟩ := h.generated_of_calls_ne hcalls
  -- The children are gone through when the declaration itself counts as generated, and it may be one of them.
  have hstate := state_emit m config r id (parent? m id) x
  obtain ⟨new, heq, hinner⟩ := exists_emit_eq m config r id (parent? m id)
  by_cases hx : (r.setState id .emitted).state x = .unvisited
  · right
    rw [heq]
    exact hinner.complete x hchild he ht hx
  · left
    rwa [hstate, ← state_setState]

end SchemaBinding.Run
