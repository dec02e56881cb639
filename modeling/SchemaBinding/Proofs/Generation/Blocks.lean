import SchemaBinding.Proofs.Generation.Calls

/-!
# `SchemaBinding.Proofs.Generation.Blocks`: which declaration a block is for

The calls of a run are the blocks of the declarations that it has begun, in their order, and the emitted names are the
clean names of these declarations (`Recorded`, `Reached.exists_recorded`). So each call is made for some declaration that
the run begins (`exists_begins_of_mem_calls`).

A declaration with a base comes after the block of a declaration that has the clean name of that base
(`Begins.exists_blocks`). It may be another one than the base, which counts as generated when its clean name has been.
-/

set_option autoImplicit false

namespace SchemaBinding.Run

/-- The calls for a declaration and the type that it derives from. -/
def typeBlock (m : Model) (config : Config) (id : NodeId) : List Call :=
  typeCalls m config (m.node id) ((parent? m id).map m.node)

/-- The run has generated the declarations `begun`, one after the other. -/
structure Recorded (m : Model) (config : Config) (r : Run) (begun : List NodeId) : Prop where
  begins : ∀ id ∈ begun, Begins m config id
  calls : r.calls = begun.flatMap (typeBlock m config)
  emitted : r.report.emitted = begun.map fun id => (m.node id).cleanName

variable {m : Model} {config : Config}

/-- A visit that calls the back end adds the block of the declaration, and its clean name. -/
theorem Visit.adds_block {r r' : Run} {id : NodeId} (h : Visit m config r id r') (hcalls : r'.calls ≠ r.calls) :
    r'.calls = r.calls ++ typeBlock m config id ∧ r'.report.emitted = r.report.emitted ++ [(m.node id).cleanName] := by
  obtain ⟨rfl, -, -, -⟩ := h.generated_of_calls_ne hcalls
  obtain ⟨new, heq, -⟩ := exists_emit_eq m config r id (parent? m id)
  rw [heq]
  exact ⟨rfl, rfl⟩

/-- A visit that does not call the back end emits no name. -/
theorem Visit.emitted_eq {r r' : Run} {id : NodeId} (h : Visit m config r id r') (hcalls : r'.calls = r.calls) :
    r'.report.emitted = r.report.emitted := by
  rcases h.emits_or_same with hsame | ⟨-, -, hne⟩
  · exact hsame
  · exact absurd hcalls hne

/-- A step calls the back end for the declaration that it begins, or not at all. -/
theorem Step.adds_block {s t : Moment} (hs : Reached m config s) (h : Step m config s t) :
    (t.run.calls = s.run.calls ∧ t.run.report.emitted = s.run.report.emitted) ∨
      ∃ id, Begins m config id ∧ t.run.calls = s.run.calls ++ typeBlock m config id ∧
        t.run.report.emitted = s.run.report.emitted ++ [(m.node id).cleanName] := by
  rcases h.visit_or_same with ⟨id, htodo, hvisit⟩ | ⟨hsame, -⟩
  · by_cases hcalls : t.run.calls = s.run.calls
    · exact Or.inl ⟨hcalls, hvisit.emitted_eq hcalls⟩
    · exact Or.inr ⟨id, h.begins hs htodo hcalls, hvisit.adds_block hcalls⟩
  · exact Or.inl ⟨hsame.calls, hsame.emitted⟩

/-- At every moment, the calls are the blocks of the declarations begun so far. -/
theorem Reached.exists_recorded {s : Moment} (h : Reached m config s) : ∃ begun, Recorded m config s.run begun := by
  refine h.invariant (P := fun s => ∃ begun, Recorded m config s.run begun) ⟨[], by simp, rfl, rfl⟩ ?_
  rintro s t hs hstep ⟨begun, hbegun⟩
  rcases hstep.adds_block hs with ⟨hcalls, hemitted⟩ | ⟨id, hid, hcalls, hemitted⟩
  · exact ⟨begun, hbegun.begins, hcalls.trans hbegun.calls, hemitted.trans hbegun.emitted⟩
  · refine ⟨begun ++ [id], ?_, ?_, ?_⟩
    · intro x hx
      rcases List.mem_append.mp hx with hx | hx
      · exact hbegun.begins x hx
      · exact List.mem_singleton.mp hx ▸ hid
    · rw [hcalls, hbegun.calls, List.flatMap_append, List.flatMap_singleton]
    · rw [hemitted, hbegun.emitted, List.map_append, List.map_singleton]

/-- Every call is made for a declaration that the run begins. -/
theorem exists_begins_of_mem_calls {c : Call} (h : c ∈ (generate config m).calls) :
    ∃ id, Begins m config id ∧ c ∈ typeBlock m config id := by
  obtain ⟨begun, hbegun⟩ := (reached_atRest m config).exists_recorded
  have hcalls : (generate config m).calls = begun.flatMap (typeBlock m config) := hbegun.calls
  rw [hcalls] at h
  obtain ⟨id, hid, hc⟩ := List.mem_flatMap.mp h
  exact ⟨id, hbegun.begins id hid, hc⟩

/-- The calls made at some moment stay the first calls of the run. -/
theorem Reached.exists_later_calls {s : Moment} (h : Reached m config s) :
    ∃ back, (generate config m).calls = s.run.calls ++ back := by
  have hrest : Reached m config ⟨.rest, atRest m config⟩ ∧ ∃ back, (atRest m config).calls = s.run.calls ++ back := by
    refine Steps.stable (P := fun t => Reached m config t ∧ ∃ back, t.run.calls = s.run.calls ++ back) ?_
      h.steps_to_rest ⟨h, [], (List.append_nil _).symm⟩
    rintro t t' hstep ⟨ht, back, hback⟩
    refine ⟨ht.step hstep, ?_⟩
    rcases hstep.adds_block ht with ⟨hcalls, -⟩ | ⟨id, -, hcalls, -⟩
    · exact ⟨back, hcalls.trans hback⟩
    · exact ⟨back ++ typeBlock m config id, by rw [hcalls, hback, List.append_assoc]⟩
  exact hrest.2

/-- A declaration that the run begins has a block, and if it derives from a type, then a block for the clean name of that
type comes before. -/
theorem Begins.exists_blocks {id base : NodeId} (h : Begins m config id) (hbase : parent? m id = some base) :
    ∃ named front between back, Begins m config named ∧ (m.node named).cleanName = (m.node base).cleanName ∧
      named ≠ id ∧ (generate config m).calls =
        front ++ typeBlock m config named ++ between ++ typeBlock m config id ++ back := by
  obtain ⟨s, t, hs, ht, hvisit, hcalls⟩ := h.exists_visit
  obtain ⟨-, hnew, hready, -⟩ := hvisit.generated_of_calls_ne hcalls
  -- The base counts as generated, so its clean name belongs to a block that is there.
  have hemitted : (m.node base).cleanName ∈ s.run.report.emitted := hs.called.cleanName_mem base (hready base hbase)
  obtain ⟨begun, hbegun⟩ := hs.exists_recorded
  rw [hbegun.emitted] at hemitted hnew
  obtain ⟨named, hnamed, hclean⟩ := List.mem_map.mp hemitted
  have hne : named ≠ id := by
    rintro rfl
    exact hnew (List.mem_map.mpr ⟨named, hnamed, rfl⟩)
  -- What the run has begun at that moment ends before the block of the declaration.
  obtain ⟨before, after, rfl⟩ := List.append_of_mem hnamed
  obtain ⟨back, hback⟩ := ht.exists_later_calls
  refine ⟨named, before.flatMap (typeBlock m config), after.flatMap (typeBlock m config), back,
    hbegun.begins named hnamed, hclean, hne, ?_⟩
  rw [hback, (hvisit.adds_block hcalls).1, hbegun.calls, List.flatMap_append, List.flatMap_cons]
  simp only [List.append_assoc]

/-! ### The emitted names -/

theorem Step.emitted_prefix {s t : Moment} (h : Step m config s t) : s.run.report.emitted <+: t.run.report.emitted := by
  rcases h.visit_or_same with ⟨id, -, hvisit⟩ | ⟨hsame, -⟩
  · rcases hvisit.emits_or_same with hsame | ⟨hadded, -, -⟩
    · exact hsame ▸ List.prefix_rfl
    · exact hadded ▸ List.prefix_append _ _
  · exact hsame.emitted ▸ List.prefix_rfl

theorem Steps.emitted_prefix {s t : Moment} (h : Steps m config s t) :
    s.run.report.emitted <+: t.run.report.emitted := by
  induction h with
  | refl => exact List.prefix_rfl
  | tail _ hstep ih => exact ih.trans hstep.emitted_prefix

/-- A declaration is begun under a name that has not been emitted before, and after the name of its base. -/
theorem Begins.exists_emitted_eq {id : NodeId} (h : Begins m config id) :
    ∃ before after, (generate config m).report.emitted = before ++ (m.node id).cleanName :: after ∧
      (m.node id).cleanName ∉ before ∧ ∀ base, parent? m id = some base → (m.node base).cleanName ∈ before := by
  obtain ⟨s, t, hs, ht, hvisit, hcalls⟩ := h.exists_visit
  obtain ⟨-, hnew, hready, -⟩ := hvisit.generated_of_calls_ne hcalls
  obtain ⟨after, hafter⟩ := Steps.emitted_prefix ht.steps_to_rest
  refine ⟨s.run.report.emitted, after, ?_, hnew, fun base hbase => hs.called.cleanName_mem base (hready base hbase)⟩
  have hemitted : (generate config m).report.emitted = (atRest m config).report.emitted := rfl
  rw [hemitted, ← hafter, (hvisit.adds_block hcalls).2, List.append_assoc, List.singleton_append]

/-- Of two moments of a run, one leads to the other. -/
theorem Reached.steps_or_steps {s t : Moment} (hs : Reached m config s) (ht : Reached m config t) :
    Steps m config s t ∨ Steps m config t s :=
  Relation.ReflTransGen.total_of_right_unique (fun _ _ _ h h' => h.eq_of_step h') hs ht

/-- The step that begins a declaration is the first one after which its name is emitted. -/
theorem Step.emits {s t : Moment} (h : Step m config s t) {id : NodeId} (hhead : s.task.todo.head? = some id)
    (hcalls : t.run.calls ≠ s.run.calls) :
    (m.node id).cleanName ∉ s.run.report.emitted ∧ (m.node id).cleanName ∈ t.run.report.emitted := by
  rcases h.visit_or_same with ⟨x, htodo, hvisit⟩ | ⟨hsame, -⟩
  · rw [htodo, List.head?_cons, Option.some.injEq] at hhead
    subst hhead
    refine ⟨(hvisit.generated_of_calls_ne hcalls).2.1, ?_⟩
    rw [(hvisit.adds_block hcalls).2]
    exact List.mem_append_right _ List.mem_cons_self
  · exact absurd hsame.calls hcalls

/-- What a step emits has been emitted at all later moments. -/
theorem Steps.eq_of_not_mem_emitted {s t u : Moment} (h : Steps m config s u) (hstep : Step m config s t) {name : String}
    (ht : name ∈ t.run.report.emitted) (hu : name ∉ u.run.report.emitted) : s = u := by
  rcases h.cases_head with heq | ⟨next, hnext, hrest⟩
  · exact heq
  · rw [hnext.eq_of_step hstep] at hrest
    exact absurd ((Steps.emitted_prefix hrest).subset ht) hu

/-- No two declarations are begun under one name. -/
theorem Begins.eq_of_cleanName {id id' : NodeId} (h : Begins m config id) (h' : Begins m config id')
    (hname : (m.node id).cleanName = (m.node id').cleanName) : id = id' := by
  obtain ⟨s, t, hs, hstep, hhead, hcalls⟩ := h
  obtain ⟨s', t', hs', hstep', hhead', hcalls'⟩ := h'
  obtain ⟨hnew, hemitted⟩ := hstep.emits hhead hcalls
  obtain ⟨hnew', hemitted'⟩ := hstep'.emits hhead' hcalls'
  have hmoment : s = s' := by
    rcases hs.steps_or_steps hs' with hsteps | hsteps
    · exact Steps.eq_of_not_mem_emitted hsteps hstep hemitted (hname ▸ hnew')
    · exact (Steps.eq_of_not_mem_emitted hsteps hstep' hemitted' (hname ▸ hnew)).symm
  rw [hmoment, hhead', Option.some.injEq] at hhead
  exact hhead.symm

/-- A run that is at rest has begun all declarations that it begins. -/
theorem Recorded.mem_iff {begun : List NodeId} (h : Recorded m config (atRest m config) begun) {id : NodeId} :
    id ∈ begun ↔ Begins m config id := by
  refine ⟨h.begins id, fun hid => ?_⟩
  obtain ⟨before, after, hemitted, -, -⟩ := hid.exists_emitted_eq
  have hrest : (generate config m).report.emitted = (atRest m config).report.emitted := rfl
  have hmem : (m.node id).cleanName ∈ begun.map fun id => (m.node id).cleanName := by
    rw [← h.emitted, ← hrest, hemitted]
    exact List.mem_append_right _ List.mem_cons_self
  obtain ⟨other, hother, hname⟩ := List.mem_map.mp hmem
  exact (h.begins other hother).eq_of_cleanName hid hname ▸ hother

end SchemaBinding.Run
