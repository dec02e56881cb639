import SchemaBinding.Proofs.Generation.Moment

/-!
# `SchemaBinding.Proofs.Generation.Calls`: one type after the other, and bases first

The calls for a back end are a sequence of blocks, one for each generated type. A block (`IsBlock`) begins a type,
goes on with calls that neither begin nor end one, and ends the type. `Sequential` says that a list of calls is
made of blocks alone, so that no type begins inside of another. `BasesFirst` says that a type which begins with
a base comes after the whole block of that base.

`Called` is the invariant: it holds of a run before its first visit, and each visit keeps it. It connects the
calls with the record of the run. The names begun are the emitted names, none of them twice, and a declaration
that counts as generated has its clean name among them, whether it was generated itself or only shares that
name. So a declaration whose base counts as generated finds the block of that base in the calls made so far.

`generate_sequential_basesFirst` states all of this for the outcome of a run.
-/

set_option autoImplicit false

namespace SchemaBinding

namespace Call

/-- Whether the call begins or ends a type. -/
def isBoundary : Call → Bool
  | beginType _ _ => true
  | endType => true
  | _ => false

/-- The name of the type that a call begins. -/
def begunName? : Call → Option String
  | beginType _ name => some name
  | _ => none

/-- The names of the types that the calls begin, in the order of the calls. -/
def begunNames (calls : List Call) : List String := calls.filterMap begunName?

/-- The calls for one type: its beginning, some calls inside of it, and its end. -/
inductive IsBlock (base : Option String) (name : String) : List Call → Prop where
  | mk (body : List Call) (hbody : ∀ c ∈ body, c.isBoundary = false) :
      IsBlock base name (.beginType base name :: (body ++ [.endType]))

/-- Calls that are made of whole blocks, one after the other. -/
inductive Sequential : List Call → Prop where
  | nil : Sequential []
  | block {calls : List Call} (h : Sequential calls) {base : Option String} {name : String} {block : List Call}
      (hblock : IsBlock base name block) : Sequential (calls ++ block)

/-- The calls hold a whole block for the type `name`. -/
def HasBlock (name : String) (calls : List Call) : Prop :=
  ∃ front base block back, calls = front ++ block ++ back ∧ IsBlock base name block

/-- A type that begins with a base comes after a whole block for that base. -/
def BasesFirst (calls : List Call) : Prop :=
  ∀ before base name after, calls = before ++ .beginType (some base) name :: after → HasBlock base before

theorem HasBlock.append {name : String} {calls : List Call} (h : HasBlock name calls) (more : List Call) :
    HasBlock name (calls ++ more) := by
  obtain ⟨front, base, block, back, rfl, hblock⟩ := h
  exact ⟨front, base, block, back ++ more, by simp, hblock⟩

theorem begunNames_append (calls more : List Call) :
    begunNames (calls ++ more) = begunNames calls ++ begunNames more :=
  List.filterMap_append

/-- Nothing begins inside of a block. -/
theorem begunNames_of_inside {body : List Call} (h : ∀ c ∈ body, c.isBoundary = false) :
    begunNames body = [] := by
  refine List.filterMap_eq_nil_iff.mpr ?_
  intro c hc
  have hinside := h c hc
  cases c with
  | beginType => simp [isBoundary] at hinside
  | _ => rfl

theorem IsBlock.begunNames_eq {base : Option String} {name : String} {block : List Call}
    (h : IsBlock base name block) : begunNames block = [name] := by
  obtain ⟨body, hbody⟩ := h
  have hcons : begunNames (.beginType base name :: (body ++ [.endType])) =
      name :: begunNames (body ++ [.endType]) := rfl
  rw [hcons, begunNames_append, begunNames_of_inside hbody]
  rfl

/-- The only beginning in a block is its first call. -/
theorem IsBlock.eq_of_split {base : Option String} {name : String} {front after : List Call}
    {base' : Option String} {name' : String}
    (h : IsBlock base name (front ++ .beginType base' name' :: after)) : front = [] ∧ base' = base := by
  generalize hblock : front ++ .beginType base' name' :: after = block at h
  obtain ⟨body, hbody⟩ := h
  cases front with
  | nil =>
      simp only [List.nil_append, List.cons.injEq, beginType.injEq] at hblock
      exact ⟨rfl, hblock.1.1⟩
  | cons c front =>
      simp only [List.cons_append, List.cons.injEq] at hblock
      -- A second beginning would stand among the calls inside, or be the end.
      have hmem : Call.beginType base' name' ∈ body ++ [.endType] := by
        rw [← hblock.2]
        simp
      rcases List.mem_append.mp hmem with hin | hend
      · have := hbody _ hin
        simp [isBoundary] at this
      · simp at hend

/-- One more block keeps the bases first, if the block of its base is there. -/
theorem BasesFirst.append {calls : List Call} (h : BasesFirst calls) {base : Option String} {name : String}
    {block : List Call} (hblock : IsBlock base name block) (hbase : ∀ b, base = some b → HasBlock b calls) :
    BasesFirst (calls ++ block) := by
  intro before base' name' after heq
  -- The beginning is in the new block, where it must be the first call, or in the calls before.
  rcases List.append_eq_append_iff.mp heq with ⟨front, hbefore, hrest⟩ | ⟨rest, hcalls, hrest⟩
  · rw [hrest] at hblock
    obtain ⟨hfront, hsame⟩ := hblock.eq_of_split
    rw [hbefore, hfront, List.append_nil]
    exact hbase base' hsame.symm
  · cases rest with
    | nil =>
        -- The split is where the block starts, so this is the first call of the block again.
        rw [List.nil_append] at hrest
        rw [List.append_nil] at hcalls
        have hfirst : IsBlock base name ([] ++ .beginType (some base') name' :: after) := hrest ▸ hblock
        rw [← hcalls]
        exact hbase base' hfirst.eq_of_split.2.symm
    | cons c rest =>
        simp only [List.cons_append, List.cons.injEq] at hrest
        rw [← hrest.1] at hcalls
        exact h before base' name' rest hcalls

/-- Each begun type has a whole block. -/
theorem Sequential.hasBlock {calls : List Call} (h : Sequential calls) {name : String}
    (hname : name ∈ begunNames calls) : HasBlock name calls := by
  induction h with
  | nil => simp [begunNames] at hname
  | @block calls _ base name' block hblock ih =>
      rw [begunNames_append, hblock.begunNames_eq] at hname
      rcases List.mem_append.mp hname with hold | hnew
      · exact (ih hold).append block
      · rw [List.mem_singleton.mp hnew]
        exact ⟨calls, base, block, [], by simp, hblock⟩

end Call

open Call

/-- The calls for fields neither begin nor end a type. -/
theorem isBoundary_fieldCalls (m : Model) (validated : List String) (fs : List Field) :
    ∀ c ∈ fieldCalls m validated fs, c.isBoundary = false := by
  induction fs generalizing validated with
  | nil => simp [fieldCalls]
  | cons f rest ih =>
      unfold fieldCalls
      intro c hc
      split at hc
      · rename_i d hd
        split at hc
        · rcases List.mem_cons.mp hc with rfl | hc
          · rfl
          · exact ih _ c hc
        · rcases List.mem_cons.mp hc with rfl | hc
          · rfl
          rcases List.mem_cons.mp hc with rfl | hc
          · rfl
          · exact ih _ c hc
      · rcases List.mem_cons.mp hc with rfl | hc
        · rfl
        · exact ih _ c hc

/-- The calls for a type are one block, with the clean names of the type and of its base. -/
theorem isBlock_typeCalls (m : Model) (config : Config) (n : Node) (base : Option Node) :
    IsBlock (base.map (·.cleanName)) n.cleanName (typeCalls m config n base) := by
  have hbody : ∀ c ∈ ((nonBlank? n.documentation).map Call.documentation).toList ++
      fieldCalls m [] (fields m config.accessorStyle n) ++ [.comparators, .serializeHooks, .deserializeHooks] ++
      (config.methods.filter (·.isFor n.cleanName)).map (fun spec => .userMethods (spec.render n.cleanName)),
      c.isBoundary = false := by
    intro c hc
    simp only [List.mem_append, List.mem_map, Option.mem_toList, Option.map_eq_some_iff, List.mem_cons,
      List.not_mem_nil, or_false] at hc
    rcases hc with ((⟨_, -, rfl⟩ | hfield) | rfl | rfl | rfl) | ⟨_, -, rfl⟩
    · rfl
    · exact isBoundary_fieldCalls m [] _ c hfield
    · rfl
    · rfl
    · rfl
    · rfl
  have h : IsBlock (base.map (·.cleanName)) n.cleanName _ := .mk _ hbody
  unfold typeCalls
  simpa only [List.append_assoc, List.cons_append, List.nil_append] using h

namespace Run

/-- What holds of the calls of a run at every moment. -/
structure Called (m : Model) (r : Run) : Prop where
  sequential : Sequential r.calls
  basesFirst : BasesFirst r.calls
  emitted_eq : r.report.emitted = begunNames r.calls
  nodup : r.report.emitted.Nodup
  /-- A declaration that counts as generated has its name among the emitted ones. -/
  cleanName_mem : ∀ id, r.state id = .emitted → (m.node id).cleanName ∈ r.report.emitted

theorem called_start (m : Model) : Called m {} where
  sequential := .nil
  basesFirst := by
    intro before base name after h
    have hnil := congrArg List.length h
    simp at hnil
  emitted_eq := rfl
  nodup := List.nodup_nil
  cleanName_mem := by
    intro id hid
    simp at hid

/-- `Called` depends on the states, the calls and the emitted names alone. -/
theorem Called.congr {m : Model} {r r' : Run} (h : Called m r) (hcalls : r'.calls = r.calls)
    (hemitted : r'.report.emitted = r.report.emitted)
    (hstate : ∀ id, r'.state id = .emitted → r.state id = .emitted) : Called m r' where
  sequential := hcalls ▸ h.sequential
  basesFirst := hcalls ▸ h.basesFirst
  emitted_eq := by rw [hemitted, hcalls, h.emitted_eq]
  nodup := hemitted ▸ h.nodup
  cleanName_mem := fun id hid => hemitted ▸ h.cleanName_mem id (hstate id hid)

/-- A generated declaration adds its own block. The block of its base is there, since the base counts as
generated, and so its name is among the names begun. -/
theorem Called.emit {m : Model} (config : Config) {r : Run} {id : NodeId} (h : Called m r)
    (hname : (m.node id).cleanName ∉ r.report.emitted) (hready : BaseReady m r id) :
    Called m (r.emit m config id (parent? m id)) := by
  have hblock := isBlock_typeCalls m config (m.node id) ((parent? m id).map m.node)
  have hbase : ∀ b, ((parent? m id).map m.node).map (·.cleanName) = some b → HasBlock b r.calls := by
    intro b hb
    simp only [Option.map_eq_some_iff] at hb
    obtain ⟨_, ⟨base, hparent, rfl⟩, rfl⟩ := hb
    -- A begun name has a whole block, and the clean name of the base is one of them.
    refine h.sequential.hasBlock ?_
    rw [← h.emitted_eq]
    exact h.cleanName_mem base (hready base hparent)
  have hstate := state_emit m config r id (parent? m id)
  obtain ⟨new, heq, -⟩ := exists_emit_eq m config r id (parent? m id)
  rw [heq] at hstate ⊢
  refine ⟨h.sequential.block hblock, h.basesFirst.append hblock hbase, ?_, ?_, ?_⟩
  · rw [begunNames_append, hblock.begunNames_eq, h.emitted_eq]
  · refine List.nodup_append.mpr ⟨h.nodup, by simp, ?_⟩
    intro a ha b hb hab
    rw [List.mem_singleton.mp hb] at hab
    exact hname (hab ▸ ha)
  · intro x hx
    rw [hstate] at hx
    by_cases hxid : x = id
    · rw [hxid]
      exact List.mem_append_right _ (List.mem_singleton.mpr rfl)
    · rw [if_neg hxid] at hx
      exact List.mem_append_left _ (h.cleanName_mem x hx)

theorem Called.visit {m : Model} {config : Config} {r r' : Run} {id : NodeId} (hvisit : Visit m config r id r')
    (h : Called m r) : Called m r' := by
  cases hvisit with
  | settled hold => exact h
  | named hnew hname =>
      -- There is no call, but one more declaration counts as generated. Its name is there already.
      refine ⟨h.sequential, h.basesFirst, h.emitted_eq, h.nodup, ?_⟩
      intro x hx
      rw [state_setState] at hx
      by_cases hxid : x = id
      · rw [hxid]
        exact hname
      · rw [if_neg hxid] at hx
        exact h.cleanName_mem x hx
  | postponed hnew hbase hwait =>
      rw [postpone_eq]
      exact h.congr rfl rfl fun _ hx => hx
  | rejected hnew why =>
      refine h.congr rfl rfl ?_
      intro x hx
      rw [state_reject] at hx
      by_cases hxid : x = id
      · rw [if_pos hxid] at hx
        cases hx
      · rwa [if_neg hxid] at hx
  | generated hnew hname hready hmixed => exact h.emit config hname hready

theorem Reached.called {m : Model} {config : Config} {s : Moment} (h : Reached m config s) : Called m s.run :=
  h.run_invariant (called_start m) (fun _ _ _ hvisit => Called.visit hvisit)
    fun _ _ hsame hr => hr.congr hsame.calls hsame.emitted fun id hid => hsame.state id ▸ hid

/-- Types are generated one after the other, each once and after its base, and the report names them in the
order of their beginnings. -/
theorem generate_sequential_basesFirst (m : Model) (config : Config) :
    Sequential (generate config m).calls ∧ BasesFirst (generate config m).calls ∧
      (begunNames (generate config m).calls).Nodup ∧
      (generate config m).report.emitted = begunNames (generate config m).calls := by
  have h : Called m (atRest m config) := (reached_atRest m config).called
  rw [generate_eq]
  exact ⟨h.sequential, h.basesFirst, h.emitted_eq ▸ h.nodup, h.emitted_eq⟩

end Run

end SchemaBinding
