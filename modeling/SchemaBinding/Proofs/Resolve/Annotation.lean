import SchemaBinding.Proofs.Groups.Exact
import SchemaBinding.Proofs.Resolve.Registered

/-!
# `SchemaBinding.Proofs.Resolve.Annotation`: resolution adds to a model and takes nothing away

The passes fill in nodes and never change what was written of them. A flag that is set stays set, facets that restrict
and the name of a simple type stay as they are, and a node keeps as many attributes as it had (`Node.Annotated`). No
pass adds or removes a node, and of the registries only that of the declarations is filled in.

Some passes change nodes that they find by name and not by walking down from the root: a base, or the nodes along a
chain. Only declarations are registered, and the root reaches those, so no pass changes a node out of the root's reach
(`Model.Annotated`). Each pass has a lemma that says so, and `Model.IsBuilt.annotated_resolve` puts them together.
The first pass differs from the others in that it decides itself what the root reaches. It never comes back to a node
that it has walked, so all of these are within reach in the end (`reaches_or_same_spliceReachable`).
-/

set_option autoImplicit false

namespace SchemaBinding

/-! ### What may become of a node -/

/-- The second node is the first one with annotations. -/
structure Node.Annotated (n n' : Node) : Prop where
  /-- All fields that no pass fills in are the same. -/
  written : n'.written = n.written
  mixed : n.mixed = true → n'.mixed = true
  collapseWhiteSpace : n.collapseWhiteSpace = true → n'.collapseWhiteSpace = true
  isExtended : n.isExtended = true → n'.isExtended = true
  mixedExtensionError : n.mixedExtensionError = true → n'.mixedExtensionError = true
  facets : n.facets.isRestricted = true → n'.facets = n.facets
  simpleTypeName : n.simpleTypeName.isSome = true → n'.simpleTypeName = n.simpleTypeName
  attributes : n.attributes.size ≤ n'.attributes.size

namespace Node.Annotated

variable {n n' n'' : Node}

theorem refl (n : Node) : n.Annotated n := ⟨rfl, id, id, id, id, fun _ => rfl, fun _ => rfl, Nat.le_refl _⟩

theorem trans (h : n.Annotated n') (h' : n'.Annotated n'') : n.Annotated n'' where
  written := h'.written.trans h.written
  mixed hn := h'.mixed (h.mixed hn)
  collapseWhiteSpace hn := h'.collapseWhiteSpace (h.collapseWhiteSpace hn)
  isExtended hn := h'.isExtended (h.isExtended hn)
  mixedExtensionError hn := h'.mixedExtensionError (h.mixedExtensionError hn)
  facets hn := (h'.facets ((h.facets hn).symm ▸ hn)).trans (h.facets hn)
  simpleTypeName hn := (h'.simpleTypeName ((h.simpleTypeName hn).symm ▸ hn)).trans (h.simpleTypeName hn)
  attributes := Nat.le_trans h.attributes h'.attributes

theorem withChildren (n : Node) (ids : List NodeId) : n.Annotated (n.withChildren ids) :=
  { refl n with written := rfl }

theorem withAttributes (n : Node) {attributes : AttributeMap} (h : n.attributes.size ≤ attributes.size) :
    n.Annotated { n with attributes := attributes } :=
  { refl n with written := rfl, attributes := h }

theorem cleanNames (names : NameTable) (n : Node) : n.Annotated (cleanNames names n) :=
  { refl n with written := rfl, attributes := (Table.size_map n.attributes _).ge }

theorem applyResolution (r : Resolution) (collapseFromBase : Bool) (n : Node) :
    n.Annotated (applyResolution r collapseFromBase n) where
  written := rfl
  mixed := id
  collapseWhiteSpace hn := by simp [SchemaBinding.applyResolution, hn]
  isExtended := id
  mixedExtensionError := id
  facets hn := by simp [SchemaBinding.applyResolution, Facets.orElse, hn]
  simpleTypeName hn := by
    obtain ⟨name, hname⟩ := Option.isSome_iff_exists.mp hn
    simp [SchemaBinding.applyResolution, hname]
  attributes := Nat.le_refl _

theorem markMixed (n : Node) : n.Annotated n.markMixed :=
  { refl n with written := rfl, mixed := fun _ => rfl }

theorem markConflict (n : Node) : n.Annotated n.markConflict :=
  { refl n with written := rfl, mixedExtensionError := fun _ => rfl }

theorem markExtended (n : Node) : n.Annotated { n with isExtended := true } :=
  { refl n with written := rfl, isExtended := fun _ => rfl }

end Node.Annotated

/-! ### What may become of a model -/

/-- The second model is the first one with annotations at some places. -/
structure Model.Annotated (live : NodeId → Prop) (m m' : Model) : Prop where
  size : m'.nodes.size = m.nodes.size
  node : ∀ id, (m.node id).Annotated (m'.node id)
  elsewhere : ∀ id, ¬ live id → m'.node id = m.node id
  /-- The registry of the declarations is the only one that changes. -/
  symbols : m'.symbols = { m.symbols with elements := m'.symbols.elements }
  builtins : m'.builtins = m.builtins
  targetNamespace : m'.targetNamespace = m.targetNamespace

namespace Model.Annotated

variable {live : NodeId → Prop} {m m' m'' : Model}

theorem refl (m : Model) : Annotated live m m :=
  ⟨rfl, fun _ => .refl _, fun _ _ => rfl, rfl, rfl, rfl⟩

theorem trans (h : Annotated live m m') (h' : Annotated live m' m'') : Annotated live m m'' where
  size := h'.size.trans h.size
  node id := (h.node id).trans (h'.node id)
  elsewhere id hid := (h'.elsewhere id hid).trans (h.elsewhere id hid)
  symbols := by rw [h'.symbols, h.symbols]
  builtins := h'.builtins.trans h.builtins
  targetNamespace := h'.targetNamespace.trans h.targetNamespace

theorem modifyNode (m : Model) {id : NodeId} {f : Node → Node} (hid : live id)
    (hf : (m.node id).Annotated (f (m.node id))) : Annotated live m (m.modifyNode id f) where
  size := size_modifyNode m id f
  node x := by
    rw [node_modifyNode]
    split
    · rename_i hx
      rw [hx.1]
      exact hf
    · exact .refl _
  elsewhere x hx := by
    rw [node_modifyNode, if_neg]
    rintro ⟨rfl, -⟩
    exact hx hid
  symbols := rfl
  builtins := rfl
  targetNamespace := rfl

theorem registerElement (m : Model) (name : String) (id : NodeId) :
    Annotated live m (m.modifySymbols (·.registerElement name id)) :=
  ⟨rfl, fun _ => .refl _, fun _ _ => rfl, rfl, rfl, rfl⟩

/-- What every step does to a model with some property, which it keeps, all of them do. -/
theorem forEach {α : Type} {step : Model → α → Resolved} {entries : List α} (P : Model → Prop)
    (hstep : ∀ current, P current → ∀ entry ∈ entries,
      Annotated live current (step current entry).model ∧ P (step current entry).model) (hm : P m) :
    Annotated live m (Resolved.forEach m entries step).model := by
  rw [model_forEach]
  induction entries generalizing m with
  | nil => exact .refl m
  | cons entry rest ih =>
      obtain ⟨hfirst, hnext⟩ := hstep m hm entry List.mem_cons_self
      exact hfirst.trans (ih (fun current hcurrent x hx => hstep current hcurrent x (List.mem_cons_of_mem _ hx)) hnext)

/-- The steps of a pass through places that may change. -/
theorem forEach_live {step : Model → NodeId → Resolved} {ids : List NodeId}
    (hstep : ∀ current id, live id → Annotated live current (step current id).model) (hids : ∀ id ∈ ids, live id) :
    Annotated live m (Resolved.forEach m ids step).model :=
  forEach (fun _ => True) (fun current _ id hid => ⟨hstep current id (hids id hid), trivial⟩) trivial

end Model.Annotated

/-! ### References to groups -/

theorem annotated_spliceChildren {live : NodeId → Prop} (m : Model) (memo : GroupMemo) {id : NodeId} (hid : live id) :
    Model.Annotated live m (spliceChildren m memo id).1 := by
  unfold spliceChildren
  split
  · exact .modifyNode m hid (.withChildren _ _)
  · exact .refl m

/-- Splicing leaves all other nodes alone. -/
theorem node_spliceChildren_of_ne (m : Model) (memo : GroupMemo) {id x : NodeId} (hx : x ≠ id) :
    (spliceChildren m memo id).1.node x = m.node x := by
  have h : Model.Annotated (· = id) m (spliceChildren m memo id).1 := annotated_spliceChildren m memo rfl
  exact h.elsewhere x hx

theorem annotated_spliceReachable (m : Model) (memo : GroupMemo) (seen work : List NodeId) :
    Model.Annotated (fun _ => True) m (spliceReachable m memo seen work).1 := by
  fun_induction spliceReachable m memo seen work with
  | case1 m => exact .refl m
  | case2 m memo seen id rest h spliced ih => exact (annotated_spliceChildren m memo trivial).trans ih
  | case3 m memo seen id rest h ih => exact ih

/-- A walk leaves the nodes alone that it has seen before. -/
theorem node_spliceReachable_of_mem (m : Model) (memo : GroupMemo) (seen work : List NodeId) {x : NodeId}
    (hx : x ∈ seen) : (spliceReachable m memo seen work).1.node x = m.node x := by
  fun_induction spliceReachable m memo seen work with
  | case1 => rfl
  | case2 m memo seen id rest h spliced ih =>
      have hne : x ≠ id := by
        rintro rfl
        simp [hx] at h
      exact (ih (List.mem_append_left _ hx)).trans (node_spliceChildren_of_ne m memo hne)
  | case3 m memo seen id rest h ih => exact ih hx

/-- What a walk changes can be reached from its work in the end. -/
theorem reaches_or_same_spliceReachable (m : Model) (memo : GroupMemo) (seen work : List NodeId) (x : NodeId) :
    (∃ start ∈ work, (spliceReachable m memo seen work).1.Reaches start x) ∨
      (spliceReachable m memo seen work).1.node x = m.node x := by
  fun_induction spliceReachable m memo seen work with
  | case1 => exact Or.inr rfl
  | case2 m memo seen id rest h spliced ih =>
      by_cases hx : x = id
      · exact Or.inl ⟨id, List.mem_cons_self, hx ▸ .refl⟩
      -- The walk does not come back to this node, so the children that it gets now are those of the end.
      have hchildren : (spliceReachable spliced.1 spliced.2 (seen ++ [id]) (spliced.1.children id ++ rest)).1.children id =
          spliced.1.children id :=
        congrArg Node.children (node_spliceReachable_of_mem _ _ _ _ (List.mem_append_right _ List.mem_cons_self))
      have hother : spliced.1.node x = m.node x := node_spliceChildren_of_ne m memo hx
      rcases ih with ⟨start, hstart, hreach⟩ | hsame
      · rcases List.mem_append.mp hstart with hstart | hstart
        · exact Or.inl ⟨id, List.mem_cons_self, .head (by rwa [hchildren]) hreach⟩
        · exact Or.inl ⟨start, List.mem_cons_of_mem _ hstart, hreach⟩
      · exact Or.inr (hsame.trans hother)
  | case3 m memo seen id rest h ih =>
      rcases ih with ⟨start, hstart, hreach⟩ | hsame
      · exact Or.inl ⟨start, List.mem_cons_of_mem _ hstart, hreach⟩
      · exact Or.inr hsame

/-- Replacing references to groups changes nodes that the root reaches then. -/
theorem annotated_flattenGroups (m : Model) :
    Model.Annotated ((flattenGroups m).model.Reaches Model.root) m (flattenGroups m).model := by
  have hwalk := annotated_spliceReachable m (expandDeclaredGroups m) [] [Model.root]
  refine ⟨hwalk.size, hwalk.node, fun id hid => ?_, hwalk.symbols, hwalk.builtins, hwalk.targetNamespace⟩
  rcases reaches_or_same_spliceReachable m (expandDeclaredGroups m) [] [Model.root] id with ⟨start, hstart, hreach⟩ | hsame
  · exact absurd (List.mem_singleton.mp hstart ▸ hreach) hid
  · exact hsame

/-! ### The passes through declarations -/

section passes

variable {live : NodeId → Prop}

theorem annotated_expandAttributeGroups {m : Model} (hlive : ∀ id ∈ m.preorder, live id) :
    Model.Annotated live m (expandAttributeGroups m).model :=
  .forEach_live (fun _ _ hid => .modifyNode _ hid (.withAttributes _ (Table.size_le_size_insertAll _ _))) hlive

theorem annotated_registerNode (names : NameTable) (m : Model) {id : NodeId} (hid : live id) :
    Model.Annotated live m (registerNode names m id).model := by
  have hclean : Model.Annotated live m (m.modifyNode id (cleanNames names)) := .modifyNode m hid (.cleanNames names _)
  unfold registerNode
  dsimp only
  split
  · exact hclean.trans (.registerElement _ _ _)
  · exact hclean

theorem annotated_registerSymbols (names : NameTable) {m : Model} (hlive : ∀ id ∈ m.declarations, live id) :
    Model.Annotated live m (registerSymbols names m).model :=
  .forEach_live (fun current _ hid => annotated_registerNode names current hid) hlive

theorem annotated_resolveAttributes (m : Model) {id : NodeId} (hid : live id) :
    Model.Annotated live m (resolveAttributes m id).model :=
  .modifyNode m hid (.withAttributes _ (by simp [Table.size]))

theorem annotated_resolveTypes {m : Model} (hlive : ∀ id ∈ m.declarations, live id) :
    Model.Annotated live m (resolveTypes m).model :=
  .forEach_live (fun current _ hid =>
    (Model.Annotated.modifyNode current hid (.applyResolution _ _ _)).trans (annotated_resolveAttributes _ hid)) hlive

theorem annotated_renameAttribute (children : List String) (m : Model) {id : NodeId} (hid : live id) (key : String) :
    Model.Annotated live m (renameAttribute children m id key).model := by
  unfold renameAttribute
  dsimp only
  split
  · exact .refl m
  · split
    · exact .refl m
    · rename_i hrenamed
      refine .modifyNode m hid (.withAttributes _ ?_)
      rw [Table.size_modify, Table.size_of_rename?_eq hrenamed]

theorem annotated_disambiguateNames {m : Model} (hlive : ∀ id ∈ m.declarations, live id) :
    Model.Annotated live m (disambiguateNames m).model :=
  .forEach_live (fun _ _ hid => .forEach (fun _ => True)
    (fun current _ key _ => ⟨annotated_renameAttribute _ current hid key, trivial⟩) trivial) hlive

end passes

/-! ### The passes that find nodes by name -/

/-- Names are registered for places that may change. -/
def Model.RegistersOnly (m : Model) (live : NodeId → Prop) : Prop := ∀ name id, m.element? name = some id → live id

section registered

variable {live : NodeId → Prop} {m : Model}

/-- A chain goes on to registered declarations. -/
theorem Model.RegistersOnly.extendChain (h : m.RegistersOnly live) (room : Nat) {chain : List NodeId} {id : NodeId}
    (hchain : ∀ x ∈ chain, live x) : ∀ x ∈ (m.extendChain room chain id).nodes, live x := by
  fun_induction Model.extendChain m room chain id with
  | case1 | case2 | case3 => exact hchain
  | case4 chain id base hbase hnew room ih =>
      refine ih fun x hx => ?_
      rcases List.mem_append.mp hx with hx | hx
      · exact hchain x hx
      · obtain ⟨name, -, hname⟩ := Option.bind_eq_some_iff.mp hbase
        exact List.mem_singleton.mp hx ▸ h name base hname

theorem annotated_mixAll (m : Model) {chain : List NodeId} (hchain : ∀ id ∈ chain, live id) :
    Model.Annotated live m (chain.foldl (fun m id => m.modifyNode id Node.markMixed) m) := by
  induction chain generalizing m with
  | nil => exact .refl m
  | cons id rest ih =>
      exact (Model.Annotated.modifyNode m (hchain id List.mem_cons_self) (.markMixed _)).trans
        (ih _ fun x hx => hchain x (List.mem_cons_of_mem _ hx))

theorem annotated_look {s s' : MixedState} {chain : List NodeId} (hchain : ∀ id ∈ chain, live id)
    (h : s.Look chain s') : Model.Annotated live s.model s'.model := by
  cases h with
  | kept => exact .refl _
  | flagged =>
      cases chain with
      | nil => exact .refl _
      | cons id rest => exact .modifyNode _ (hchain id List.mem_cons_self) (.markConflict _)
  | equalized => exact annotated_mixAll s.model hchain

/-- The open chains go through places that may change. -/
def MixedState.RunsThrough (s : MixedState) (live : NodeId → Prop) : Prop := ∀ chain ∈ s.openChains, ∀ id ∈ chain, live id

theorem MixedState.RunsThrough.look {s s' : MixedState} {chain : List NodeId} (hs : s.RunsThrough live)
    (hchain : ∀ id ∈ chain, live id) (h : s.Look chain s') : s'.RunsThrough live := by
  have hkeep : ∀ s₁ : MixedState, s₁.openChains = s.openChains → (s₁.keep chain).RunsThrough live := by
    intro s₁ hsame other hother
    rcases List.mem_append.mp hother with hother | hother
    · exact hs other (hsame ▸ hother)
    · exact List.mem_singleton.mp hother ▸ hchain
  cases h with
  | kept => exact hkeep s rfl
  | flagged =>
      cases chain with
      | nil => exact hs
      | cons id rest => exact hs
  | equalized => exact hkeep (s.mixAll chain) rfl

/-- A round looks at the open chains, and leaves some of them open. -/
theorem annotated_round {look : MixedState → List NodeId → MixedState}
    (hlook : ∀ s chain, MixedState.Look s chain (look s chain)) {s : MixedState} (hs : s.RunsThrough live) :
    Model.Annotated live s.model (s.round look).model ∧ (s.round look).RunsThrough live := by
  suffices hfrom : ∀ (chains : List (List NodeId)) (s₁ : MixedState), (∀ chain ∈ chains, ∀ id ∈ chain, live id) →
      s₁.RunsThrough live → Model.Annotated live s₁.model (chains.foldl look s₁).model ∧
        (chains.foldl look s₁).RunsThrough live from
    hfrom s.openChains { s with openChains := [] } hs fun _ hchain => absurd hchain List.not_mem_nil
  intro chains
  induction chains with
  | nil => exact fun s₁ _ hs₁ => ⟨.refl _, hs₁⟩
  | cons chain rest ih =>
      intro s₁ hchains hs₁
      have hchain := hchains chain List.mem_cons_self
      obtain ⟨hrest, hopen⟩ := ih (look s₁ chain) (fun c hc => hchains c (List.mem_cons_of_mem _ hc))
        (hs₁.look hchain (hlook s₁ chain))
      exact ⟨(annotated_look hchain (hlook s₁ chain)).trans hrest, hopen⟩

theorem annotated_settle {s : MixedState} (hs : s.RunsThrough live) : Model.Annotated live s.model s.settle.model := by
  fun_induction MixedState.settle s with
  | case1 s next hless ih =>
      obtain ⟨hround, hopen⟩ := annotated_round MixedState.look_equalize hs
      exact hround.trans (ih hopen)
  | case2 s next hless => exact (annotated_round MixedState.look_equalize hs).1

theorem annotated_checkMixedChains (hregistered : m.RegistersOnly live) (hlive : ∀ id ∈ m.declarations, live id) :
    Model.Annotated live m (checkMixedChains m).model := by
  have hchains : MixedState.RunsThrough ⟨m, (mixedChains m).1, (mixedChains m).2⟩ live := by
    intro chain hchain
    rw [Model.mixedChains_eq] at hchain
    obtain ⟨id, hid, rfl⟩ := List.mem_map.mp hchain
    have hdeclared : id ∈ m.declarations := (List.mem_filter.mp (List.mem_filter.mp hid).1).1
    exact hregistered.extendChain maxExtensionDepth fun x hx => List.mem_singleton.mp hx ▸ hlive id hdeclared
  obtain ⟨hround, hopen⟩ := annotated_round MixedState.look_detect hchains
  exact hround.trans (annotated_settle hopen)

theorem annotated_markExtended (hregistered : m.RegistersOnly live) :
    Model.Annotated live m (markExtended m).model := by
  refine .forEach (fun current => current.RegistersOnly live) (fun current hcurrent id _ => ⟨?_, ?_⟩) hregistered
  · unfold markBase
    split
    · rename_i base hbase
      split
      · exact .refl current
      · obtain ⟨name, -, hname⟩ := Option.bind_eq_some_iff.mp hbase
        exact .modifyNode current (hcurrent name base hname) (.markExtended _)
    · exact .refl current
  · have hkeep : Model.Keeps (fun _ => ()) Symbols.elements current (markBase current id).model :=
      keeps_markBase (fun _ => rfl) current id
    intro name x hx
    exact hcurrent name x (hkeep.element?_eq ▸ hx)

end registered

/-! ### The whole resolution -/

namespace Model

/-- Only children count for what a node reaches. -/
theorem Keeps.reaches_iff {β : Type} {known : Symbols → β} {m m' : Model} (h : Keeps Node.children known m m')
    {start id : NodeId} : m'.Reaches start id ↔ m.Reaches start id := by
  have hchildren : m'.children = m.children := funext h.node
  rw [Reaches, Reaches, hchildren]

variable {m : Model}

/-- **Resolution annotates a model.** No node comes or goes, what was written of the nodes stays, flags stay set, facets
that restrict and names of simple types stay, and no attribute is lost. What the root does not reach in the end is as
it was, and so are all registries but that of the declarations. -/
theorem IsBuilt.annotated_resolve (h : m.IsBuilt) (names : NameTable) :
    Annotated ((resolve names m).model.Reaches root) m (resolve names m).model := by
  -- The tree stays the same from the first pass on, so that each stage reaches what the root reaches in the end.
  have htyped : ∀ {β : Type} (known : Symbols → β), Keeps (fun n => (n.kind, n.children)) known (Stage.typed names m)
      (resolve names m).model := fun _ => keeps_typed names m (fun _ _ => rfl) (fun _ _ _ => rfl) fun _ => rfl
  have hmixed : Keeps (fun n => (n.kind, n.children)) Symbols.elements (Stage.typed names m)
      (checkMixedChains (Stage.typed names m)).model := keeps_checkMixedChains (fun _ _ _ => rfl) _
  have hunmarked : Keeps (fun n => (n.kind, n.children)) Symbols.elements (Stage.typed names m)
      (Stage.unmarked names m) := keeps_unmarked names m (fun _ _ _ => rfl) fun _ _ => rfl
  have hlive : ∀ id ∈ (resolve names m).model.declarations, (resolve names m).model.Reaches root id :=
    fun id hid => (mem_declarations_iff.mp hid).1
  have hflat : ∀ id, (Stage.flat m).Reaches root id → (resolve names m).model.Reaches root id := fun id =>
    ((keeps_tree names m).of_view Prod.snd).reaches_iff.mpr
  have hregistered : (Stage.typed names m).RegistersOnly ((resolve names m).model.Reaches root) := by
    intro name id hid
    rw [← (htyped Symbols.elements).element?_eq] at hid
    exact hlive id ((h.isResolved names).declared_of_element? hid).1
  have hregisteredUnmarked : (Stage.unmarked names m).RegistersOnly ((resolve names m).model.Reaches root) := by
    intro name id hid
    exact hregistered name id (hunmarked.element?_eq ▸ hid)
  -- The passes, one after the other.
  have hfirst : Annotated ((resolve names m).model.Reaches root) m (Stage.flat m) := by
    have hflatten := annotated_flattenGroups m
    exact { hflatten with elsewhere := fun id hid => hflatten.elsewhere id fun hreach => hid (hflat id hreach) }
  refine hfirst.trans ?_
  refine (annotated_expandAttributeGroups fun id hid => hflat id (mem_preorder_iff.mp hid).1).trans ?_
  refine (annotated_registerSymbols names (m := Stage.collected m) ?_).trans ?_
  · rw [← declarations_resolve names m]
    exact hlive
  refine (annotated_resolveTypes (m := Stage.registered names m) ?_).trans ?_
  · rw [declarations_registered]
    exact hlive
  refine (annotated_checkMixedChains hregistered ?_).trans ?_
  · rw [← (htyped fun _ => ()).declarations_eq]
    exact hlive
  refine (annotated_disambiguateNames (m := (checkMixedChains (Stage.typed names m)).model) ?_).trans ?_
  · rw [hmixed.declarations_eq, ← (htyped fun _ => ()).declarations_eq]
    exact hlive
  exact annotated_markExtended hregisteredUnmarked

/-- The references in `partsInParts` are out of reach in the end, and stay what they were. -/
theorem annotated_resolve_partsInParts :
    partsInParts.IsBuilt ∧
      Annotated ((resolve ∅ partsInParts).model.Reaches root) partsInParts (resolve ∅ partsInParts).model :=
  ⟨isBuilt_partsInParts, isBuilt_partsInParts.annotated_resolve ∅⟩

end Model

end SchemaBinding
